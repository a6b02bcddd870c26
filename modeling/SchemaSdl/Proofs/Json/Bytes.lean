import SchemaSdl.Json.Literal

/-! Texts in bytes. The bytes of a text are those of its characters one after another, and a character is read back
from its bytes, whatever follows them. -/

namespace SchemaSdl.Json

/-- The bytes of some characters. -/
def bytes (cs : List Char) : List UInt8 := cs.flatMap String.utf8EncodeChar

@[simp] theorem bytes_nil : bytes [] = [] := rfl

@[simp] theorem bytes_cons (c : Char) (cs : List Char) : bytes (c :: cs) = String.utf8EncodeChar c ++ bytes cs := rfl

@[simp] theorem bytes_append (cs ds : List Char) : bytes (cs ++ ds) = bytes cs ++ bytes ds := List.flatMap_append

theorem toList_loop (b : ByteArray) (i : Nat) (done : List UInt8) :
    ByteArray.toList.loop b i done = done.reverse ++ b.data.toList.drop i := by
  fun_induction ByteArray.toList.loop b i done with
  | case1 i done hi ih =>
    have hget : b.data.toList.drop i = b.get! i :: b.data.toList.drop (i + 1) := by
      rw [List.drop_eq_getElem_cons (by simpa using hi)]
      simp [ByteArray.get!, getElem!_pos b.data i hi]
    rw [ih, hget]
    simp
  | case2 i done hi =>
    have hend : b.data.toList.drop i = [] := List.drop_eq_nil_of_le (by simpa using Nat.le_of_not_lt hi)
    rw [hend, List.append_nil]

theorem toUTF8_toList (text : String) : text.toUTF8.toList = bytes text.toList := by
  rw [String.toUTF8_eq_toByteArray, ← String.utf8Encode_toList, ByteArray.toList, toList_loop]
  simp [List.utf8Encode, bytes]

/-! ### Characters -/

theorem toNat_lt (c : Char) : c.toNat < 0x110000 := by
  rcases c.valid with h | ⟨-, h⟩
  · exact Nat.lt_trans h (by decide)
  · exact h

theorem scalarValue?_toNat {c : Char} {least : Nat} (h : least ≤ c.toNat) : scalarValue? least c.toNat = some c := by
  have hvalid : c.toNat.isValidChar := c.valid
  rw [scalarValue?, if_pos h, dif_pos hvalid]
  exact congrArg some (Char.ext rfl)

theorem continuation?_ofNat (n : Nat) : continuation? (UInt8.ofNat (n % 0x40 + 0x80)) = some (n % 0x40) := by
  rw [continuation?, UInt8.toNat_ofNat_of_lt' (show n % 0x40 + 0x80 < 0x100 by omega), if_pos (by omega)]
  congr 1
  omega

section Encoding
variable {c : Char} (rest : List UInt8)

theorem character?_of_lt_80 (h : c.toNat < 0x80) : character? (UInt8.ofNat c.toNat :: rest) = some (c, 1) := by
  have hb : (UInt8.ofNat c.toNat).toNat = c.toNat := UInt8.toNat_ofNat_of_lt' (show c.toNat < 0x100 by omega)
  simp only [character?, hb]
  rw [if_pos h, scalarValue?_toNat (Nat.zero_le _)]
  rfl

theorem character?_of_lt_800 (hge : 0x80 ≤ c.toNat) (hlt : c.toNat < 0x800) :
    character? (UInt8.ofNat (c.toNat / 64 % 0x20 + 0xc0) :: UInt8.ofNat (c.toNat % 0x40 + 0x80) :: rest) =
      some (c, 2) := by
  have hb : (UInt8.ofNat (c.toNat / 64 % 0x20 + 0xc0)).toNat = c.toNat / 64 + 0xc0 := by
    rw [UInt8.toNat_ofNat']
    omega
  have hn : (c.toNat / 64 + 0xc0) % 32 * 64 + c.toNat % 0x40 = c.toNat := by omega
  simp only [character?, hb, List.take_succ_cons, List.take_zero, continuation?_ofNat]
  rw [if_neg (by omega), if_pos (by omega)]
  simp only [Option.bind_eq_bind, Option.bind_some, hn, scalarValue?_toNat hge]
  rfl

theorem character?_of_lt_10000 (hge : 0x800 ≤ c.toNat) (hlt : c.toNat < 0x10000) :
    character? (UInt8.ofNat (c.toNat / 4096 % 0x10 + 0xe0) :: UInt8.ofNat (c.toNat / 64 % 0x40 + 0x80) ::
      UInt8.ofNat (c.toNat % 0x40 + 0x80) :: rest) = some (c, 3) := by
  have hb : (UInt8.ofNat (c.toNat / 4096 % 0x10 + 0xe0)).toNat = c.toNat / 4096 + 0xe0 := by
    rw [UInt8.toNat_ofNat']
    omega
  have hn : ((c.toNat / 4096 + 0xe0) % 16 * 64 + c.toNat / 64 % 0x40) * 64 + c.toNat % 0x40 = c.toNat := by omega
  simp only [character?, hb, List.take_succ_cons, List.take_zero, continuation?_ofNat]
  rw [if_neg (by omega), if_neg (by omega), if_pos (by omega)]
  simp only [Option.bind_eq_bind, Option.bind_some, hn, scalarValue?_toNat hge]
  rfl

theorem character?_of_lt_110000 (hge : 0x10000 ≤ c.toNat) (hlt : c.toNat < 0x110000) :
    character? (UInt8.ofNat (c.toNat / 262144 % 0x08 + 0xf0) :: UInt8.ofNat (c.toNat / 4096 % 0x40 + 0x80) ::
      UInt8.ofNat (c.toNat / 64 % 0x40 + 0x80) :: UInt8.ofNat (c.toNat % 0x40 + 0x80) :: rest) = some (c, 4) := by
  have hb : (UInt8.ofNat (c.toNat / 262144 % 0x08 + 0xf0)).toNat = c.toNat / 262144 + 0xf0 := by
    rw [UInt8.toNat_ofNat']
    omega
  have hn : (((c.toNat / 262144 + 0xf0) % 8 * 64 + c.toNat / 4096 % 0x40) * 64 + c.toNat / 64 % 0x40) * 64
      + c.toNat % 0x40 = c.toNat := by omega
  simp only [character?, hb, List.take_succ_cons, List.take_zero, continuation?_ofNat]
  rw [if_neg (by omega), if_neg (by omega), if_neg (by omega), if_pos (by omega)]
  simp only [Option.bind_eq_bind, Option.bind_some, hn, scalarValue?_toNat hge]
  rfl

end Encoding

/-- A character is read back from its bytes: the first byte tells how many there are, and the rest give back the code
point. -/
theorem character?_utf8EncodeChar (c : Char) (rest : List UInt8) :
    character? (String.utf8EncodeChar c ++ rest) = some (c, (String.utf8EncodeChar c).length) := by
  have hval : c.val.toNat = c.toNat := rfl
  rw [String.utf8EncodeChar, hval]
  split
  · exact character?_of_lt_80 rest (by omega)
  · split
    · exact character?_of_lt_800 rest (by omega) (by omega)
    · split
      · exact character?_of_lt_10000 rest (by omega) (by omega)
      · exact character?_of_lt_110000 rest (by omega) (toNat_lt c)

/-! ### Bytes -/

theorem utf8EncodeChar_of_lt {c : Char} (h : c.toNat < 0x80) : String.utf8EncodeChar c = [UInt8.ofNat c.toNat] := by
  have hval : c.val.toNat = c.toNat := rfl
  rw [String.utf8EncodeChar, hval, if_pos (by omega)]

/-- A character beyond ASCII has no byte of ASCII in it. -/
theorem le_of_mem_utf8EncodeChar {c : Char} (h : 0x80 ≤ c.toNat) {b : UInt8} (hb : b ∈ String.utf8EncodeChar c) :
    0x80 ≤ b.toNat := by
  have hval : c.val.toNat = c.toNat := rfl
  have hbyte (n : Nat) (hn : n < 0x80) : 0x80 ≤ (UInt8.ofNat (n + 0x80)).toNat := by
    rw [UInt8.toNat_ofNat']
    omega
  rw [String.utf8EncodeChar, hval, if_neg (by omega)] at hb
  split at hb
  · simp only [List.mem_cons, List.not_mem_nil, or_false] at hb
    rcases hb with rfl | rfl
    · exact hbyte (c.toNat / 64 % 0x20 + 0x40) (by omega)
    · exact hbyte _ (by omega)
  · split at hb
    · simp only [List.mem_cons, List.not_mem_nil, or_false] at hb
      rcases hb with rfl | rfl | rfl
      · exact hbyte (c.toNat / 4096 % 0x10 + 0x60) (by omega)
      · exact hbyte _ (by omega)
      · exact hbyte _ (by omega)
    · simp only [List.mem_cons, List.not_mem_nil, or_false] at hb
      rcases hb with rfl | rfl | rfl | rfl
      · exact hbyte (c.toNat / 262144 % 0x08 + 0x70) (by omega)
      · exact hbyte _ (by omega)
      · exact hbyte _ (by omega)
      · exact hbyte _ (by omega)

theorem toNat_of_mem_utf8EncodeChar {c : Char} {b : UInt8} (hb : b ∈ String.utf8EncodeChar c) :
    b.toNat = c.toNat ∨ 0x80 ≤ b.toNat := by
  rcases Nat.lt_or_ge c.toNat 0x80 with hlt | hge
  · rw [utf8EncodeChar_of_lt hlt, List.mem_singleton] at hb
    refine .inl ?_
    rw [hb, UInt8.toNat_ofNat']
    omega
  · exact .inr (le_of_mem_utf8EncodeChar hge hb)

end SchemaSdl.Json
