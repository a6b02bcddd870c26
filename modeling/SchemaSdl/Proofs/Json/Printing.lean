import SchemaSdl.Proofs.Json.Text

/-! One text for each value: no blanks, and only the characters escaped that have to be. -/

namespace SchemaSdl.Json

/-- The small hexadecimal digit of a value. -/
def hexDigit (k : Nat) : Char := "0123456789abcdef".toList.getD k '0'

/-- Four hexadecimal digits. -/
def hexDigits (n : Nat) : List Char := [n / 0x1000, n / 0x100 % 0x10, n / 0x10 % 0x10, n % 0x10].map hexDigit

theorem isHex_hexDigits {n : Nat} (h : n < 0x10000) : IsHex n (hexDigits n) := by
  have hdigit {k : Nat} (hk : k < 16) : IsHexDigit k (hexDigit k) := by
    have hlen : k < "0123456789abcdef".toList.length := hk
    rw [IsHexDigit, hexDigit, List.getD_eq_getElem?_getD, List.getElem?_eq_getElem hlen]
    exact .inl rfl
  refine ⟨h, .cons (hdigit ?_) (.cons (hdigit ?_) (.cons (hdigit ?_) (.cons (hdigit ?_) .nil)))⟩ <;> omega

/-- A character as it is, or as its code point if it would end the literal, begin an escape or is a control. -/
def spelled (c : Char) : List Char :=
  if ' ' ≤ c ∧ c ≠ '"' ∧ c ≠ '\\' then [c] else '\\' :: 'u' :: hexDigits c.toNat

theorem spelling_spelled (c : Char) : Spelling c (spelled c) := by
  by_cases h : ' ' ≤ c ∧ c ≠ '"' ∧ c ≠ '\\'
  · rw [spelled, if_pos h]
    exact .plain h.1 h.2.1 h.2.2
  · rw [spelled, if_neg h]
    refine .codePoint (isHex_hexDigits ?_)
    by_contra hge
    have hspace : ' ' ≤ c := Nat.le_trans (by decide : ' '.toNat ≤ 0x10000) (Nat.le_of_not_lt hge)
    refine h ⟨hspace, ?_, ?_⟩
    · rintro rfl
      exact hge (by decide)
    · rintro rfl
      exact hge (by decide)

/-- A token without blanks. -/
def Token.printed : Token → List Char
  | .word cs => cs
  | .text s => '"' :: (s.toList.flatMap spelled ++ ['"'])

theorem Token.writtenAs_printed (token : Token) : token.WrittenAs token.printed := by
  cases token with
  | word cs => exact rfl
  | text s =>
    refine ⟨s.toList.map spelled, ?_, rfl⟩
    rw [List.forall₂_map_right_iff, List.forall₂_same]
    exact fun c _ => spelling_spelled c

theorem lays_printed (tokens : List Token) : Lays tokens (tokens.flatMap Token.printed) := by
  induction tokens with
  | nil => exact .nil
  | cons token tokens ih => exact @Lays.cons _ _ [] _ _ (by simp) token.writtenAs_printed ih

/-- The text of a value. -/
def Value.printed (value : Value) : String := String.ofList (value.tokens.flatMap Token.printed)

theorem Value.writtenAs_printed (value : Value) : value.WrittenAs value.printed :=
  ⟨_, [], lays_printed value.tokens, by simp, by rw [printed, String.toList_ofList, List.append_nil]⟩

end SchemaSdl.Json
