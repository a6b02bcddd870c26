import SchemaSdl.Json.Typed
import SchemaSdl.Proofs.Json.Bytes
import SchemaSdl.Proofs.Json.Text

/-! What a reader takes from its input, and where in the input the tokens of a text are. -/

namespace SchemaSdl.Json

/-! ### Readers -/

/-- Reading gave this value and left this rest. -/
def Gives {origin : List UInt8} {α : Type} (outcome : Except Failure (Taken origin α)) (value : α)
    (rest : List UInt8) : Prop :=
  ∃ le, outcome = .ok ⟨value, rest, le⟩

namespace Reader
variable {α β : Type} {input mid rest : List UInt8}

/-- A reader reads this value and leaves this rest. -/
def Takes (reader : Reader α) (input : List UInt8) (value : α) (rest : List UInt8) : Prop :=
  Gives (reader input) value rest

theorem takes_pure (value : α) : (pure value : Reader α).Takes input value input := ⟨Nat.le_refl _, rfl⟩

theorem Takes.bind {first : Reader α} {next : α → Reader β} {a : α} {b : β} (hfirst : first.Takes input a mid)
    (hnext : (next a).Takes mid b rest) : (first >>= next).Takes input b rest := by
  obtain ⟨le, hfirst⟩ := hfirst
  obtain ⟨le', hnext⟩ := hnext
  refine ⟨Nat.le_trans le' le, ?_⟩
  change andThen first next input = _
  simp only [andThen, hfirst]
  change (next a mid >>= fun last => Except.ok _) = _
  rw [hnext]
  rfl

theorem Takes.within {inner : Reader α} {a : α} (h : inner.Takes input a rest) (step : Step) :
    (Reader.within step inner).Takes input a rest := by
  obtain ⟨le, h⟩ := h
  exact ⟨le, by rw [Reader.within, h]⟩

theorem takes_peek : peek.Takes input input.head? input := ⟨Nat.le_refl _, rfl⟩

theorem takes_next {b : UInt8} : next.Takes (b :: rest) (some b) rest := ⟨Nat.le_succ _, rfl⟩

theorem takes_skipByte {b : UInt8} : skipByte.Takes (b :: rest) () rest := ⟨Nat.le_succ _, rfl⟩

theorem takes_peekToken {b : UInt8} (h : input.dropWhile isBlank = b :: rest) :
    peekToken.Takes input (some b) (b :: rest) := by
  have hblanks : (skipWhile isBlank).Takes input () (b :: rest) := by
    rw [← h]
    exact ⟨_, rfl⟩
  exact hblanks.bind takes_peek

/-- A reader that looks behind the blanks goes on with the byte that is there. -/
theorem match_front {b : UInt8} (h : input.dropWhile isBlank = b :: rest) (onNil : input.dropWhile isBlank = [] → α)
    (onCons : ∀ b rest, input.dropWhile isBlank = b :: rest → α) :
    (match h : input.dropWhile isBlank with
      | [] => onNil h
      | b :: rest => onCons b rest h) = onCons b rest h := by
  split
  · rename_i heq
    cases heq.symm.trans h
  · rename_i heq
    cases heq.symm.trans h
    rfl

theorem takes_wordRest (word : List UInt8) : (wordRest word).Takes (word ++ rest) () rest := by
  induction word with
  | nil => exact takes_pure ()
  | cons b word ih =>
    refine Takes.bind takes_next ?_
    dsimp only
    rw [if_pos rfl]
    exact ih

end Reader

/-! ### Tokens -/

section Tokens
open Reader (isBlank)
variable {tokens tokens' : List Token} {input mid rest : List UInt8} {cs : List Char} {c : Char} {b : UInt8}

/-- The bytes in front of a rest are those of a text that writes the tokens. -/
def Laid (tokens : List Token) (input rest : List UInt8) : Prop :=
  ∃ text, Lays tokens text ∧ input = bytes text ++ rest

theorem IsBlank.exists_byte (h : IsBlank c) : ∃ b, String.utf8EncodeChar c = [b] ∧ isBlank b = true := by
  simp only [IsBlank, List.mem_cons, List.not_mem_nil, or_false] at h
  rcases h with rfl | rfl | rfl | rfl <;> exact ⟨_, rfl, rfl⟩

theorem dropWhile_blanks (h : ∀ c ∈ cs, IsBlank c) : (bytes cs ++ rest).dropWhile isBlank = rest.dropWhile isBlank := by
  induction cs with
  | nil => rfl
  | cons c cs ih =>
    obtain ⟨hc, hcs⟩ := List.forall_mem_cons.mp h
    obtain ⟨b, hbytes, hb⟩ := hc.exists_byte
    rw [bytes_cons, hbytes, List.append_assoc, List.singleton_append, List.dropWhile_cons_of_pos hb, ih hcs]

theorem laid_nil : Laid [] rest rest := ⟨[], .nil, rfl⟩

theorem Laid.eq_of_nil (h : Laid [] input rest) : input = rest := by
  obtain ⟨text, ⟨⟩, rfl⟩ := h
  rfl

theorem Laid.exists_of_cons {token : Token} (h : Laid (token :: tokens) input rest) :
    ∃ blanks word mid, (∀ c ∈ blanks, IsBlank c) ∧ token.WrittenAs word ∧ input = bytes blanks ++ (bytes word ++ mid) ∧
      Laid tokens mid rest := by
  obtain ⟨text, hlays, rfl⟩ := h
  cases hlays with
  | @cons _ _ blanks word text hblanks hword hrest =>
    exact ⟨blanks, word, bytes text ++ rest, hblanks, hword, by simp, text, hrest, rfl⟩

theorem Laid.exists_of_append (h : Laid (tokens ++ tokens') input rest) :
    ∃ mid, Laid tokens input mid ∧ Laid tokens' mid rest := by
  induction tokens generalizing input with
  | nil => exact ⟨input, laid_nil, h⟩
  | cons token tokens ih =>
    obtain ⟨blanks, word, next, hblanks, hword, rfl, hnext⟩ := h.exists_of_cons
    obtain ⟨mid, ⟨text, htext, rfl⟩, hmid⟩ := ih hnext
    exact ⟨mid, ⟨blanks ++ word ++ text, .cons hblanks hword htext, by simp⟩, hmid⟩

/-- A word is found behind the blanks. -/
theorem Laid.word (h : Laid (.word (c :: cs) :: tokens) input rest) (hc : String.utf8EncodeChar c = [b])
    (hb : isBlank b = false) :
    ∃ mid, input.dropWhile isBlank = b :: (bytes cs ++ mid) ∧ Laid tokens mid rest := by
  obtain ⟨blanks, word, mid, hblanks, rfl, rfl, hrest⟩ := h.exists_of_cons
  refine ⟨mid, ?_, hrest⟩
  rw [dropWhile_blanks hblanks, bytes_cons, hc, List.append_assoc, List.singleton_append,
    List.dropWhile_cons_of_neg (by simp [hb])]

theorem Laid.mark (h : Laid (.mark c :: tokens) input rest) (b : UInt8) (hc : String.utf8EncodeChar c = [b])
    (hb : isBlank b = false) : ∃ mid, input.dropWhile isBlank = b :: mid ∧ Laid tokens mid rest :=
  h.word hc hb

/-- A literal is found behind the blanks. -/
theorem Laid.text {s : String} (h : Laid (.text s :: tokens) input rest) :
    ∃ pieces mid, List.Forall₂ Spelling s.toList pieces ∧
      input.dropWhile isBlank = 0x22 :: (bytes pieces.flatten ++ 0x22 :: mid) ∧ Laid tokens mid rest := by
  obtain ⟨blanks, word, mid, hblanks, ⟨pieces, hpieces, rfl⟩, rfl, hrest⟩ := h.exists_of_cons
  have hquote : String.utf8EncodeChar '"' = [0x22] := rfl
  refine ⟨pieces, mid, hpieces, ?_, hrest⟩
  rw [dropWhile_blanks hblanks, bytes_cons, bytes_append, bytes_cons, bytes_nil, hquote]
  simp only [List.cons_append, List.nil_append, List.append_assoc]
  rfl

/-- The first byte of a token. -/
def Token.Opens : Token → UInt8 → Prop
  | .word cs, b => ∃ c cs', cs = c :: cs' ∧ String.utf8EncodeChar c = [b] ∧ isBlank b = false
  | .text _, b => b = 0x22

/-- The tokens are still there when the blanks in front of them are gone. -/
theorem Laid.front {token : Token} (h : Laid (token :: tokens) input rest) (hb : token.Opens b) :
    ∃ tail, input.dropWhile isBlank = b :: tail ∧ Laid (token :: tokens) (b :: tail) rest := by
  obtain ⟨blanks, word, mid, hblanks, hword, rfl, text, htext, rfl⟩ := h.exists_of_cons
  have hfront : ∃ tail, bytes word = b :: tail ∧ isBlank b = false := by
    cases token with
    | word cs =>
      obtain rfl : word = cs := hword
      obtain ⟨c, cs', rfl, hc, hblank⟩ := hb
      exact ⟨bytes cs', by rw [bytes_cons, hc, List.singleton_append], hblank⟩
    | text s =>
      obtain rfl : b = 0x22 := hb
      obtain ⟨pieces, -, rfl⟩ := hword
      exact ⟨bytes (pieces.flatten ++ ['"']), rfl, rfl⟩
  obtain ⟨tail, htail, hblank⟩ := hfront
  refine ⟨tail ++ (bytes text ++ rest), ?_, [] ++ word ++ text, .cons (by simp) hword htext, ?_⟩
  · rw [dropWhile_blanks hblanks, htail, List.cons_append, List.dropWhile_cons_of_neg (by simp [hblank])]
  · rw [List.nil_append, bytes_append, htail, List.append_assoc, List.cons_append]

/-! ### Where a numeral ends -/

/-- No numeral goes on here. -/
def Stops (rest : List UInt8) : Prop := ∀ b ∈ rest.head?, isDigit b = false ∧ b ≠ 0x2E ∧ b ≠ 0x65 ∧ b ≠ 0x45

theorem stops_of_isBlank (hb : isBlank b = true) : Stops (b :: rest) := by
  rintro _ ⟨⟩
  simp only [isBlank, Bool.or_eq_true, beq_iff_eq] at hb
  rcases hb with ((rfl | rfl) | rfl) | rfl <;> decide

theorem stops_blanks (h : ∀ c ∈ cs, IsBlank c) : Stops (bytes cs) := by
  cases cs with
  | nil => exact fun _ hb => absurd hb (by simp)
  | cons c cs =>
    obtain ⟨b, hbytes, hb⟩ := (h c List.mem_cons_self).exists_byte
    rw [bytes_cons, hbytes]
    exact stops_of_isBlank hb

/-- The marks that end a part of a list or an object. -/
theorem Laid.stops (h : Laid (.mark c :: tokens) input rest) (hc : c ∈ [',', ']', '\x7d']) : Stops input := by
  obtain ⟨blanks, word, mid, hblanks, rfl, rfl, -⟩ := h.exists_of_cons
  cases blanks with
  | nil =>
    simp only [List.mem_cons, List.not_mem_nil, or_false] at hc
    rintro b hb
    rcases hc with rfl | rfl | rfl <;> obtain rfl := Option.some.inj hb <;> decide
  | cons d blanks =>
    obtain ⟨b, hbytes, hb⟩ := (hblanks d List.mem_cons_self).exists_byte
    rw [bytes_cons, hbytes]
    exact stops_of_isBlank hb

/-! ### Digits -/

theorem exists_digit {c : Char} (h : c.isDigit) :
    ∃ b, String.utf8EncodeChar c = [b] ∧ b.toNat = c.toNat ∧ isDigit b = true := by
  simp only [Char.isDigit, Bool.and_eq_true, decide_eq_true_eq] at h
  have hle : 0x30 ≤ c.toNat := h.1
  have hge : c.toNat ≤ 0x39 := h.2
  have hb : (UInt8.ofNat c.toNat).toNat = c.toNat := by
    rw [UInt8.toNat_ofNat']
    omega
  refine ⟨UInt8.ofNat c.toNat, utf8EncodeChar_of_lt (by omega), hb, ?_⟩
  simp only [isDigit, Bool.and_eq_true, decide_eq_true_eq, UInt8.le_iff_toNat_le, hb]
  exact ⟨hle, hge⟩

theorem isBlank_of_isDigit {b : UInt8} (h : isDigit b = true) : isBlank b = false := by
  cases hb : isBlank b with
  | false => rfl
  | true =>
    have hstops : Stops [b] := stops_of_isBlank hb
    exact absurd h (by rw [(hstops b rfl).1]; decide)

end Tokens

/-! ### Values -/

theorem IsNumeral.exists_cons {cs : List Char} (h : IsNumeral cs) : ∃ c cs', cs = c :: cs' ∧ (c = '-' ∨ c.isDigit) := by
  obtain ⟨sign, whole, fraction, exponent, rfl, hsign, hwhole, -⟩ := h
  simp only [List.mem_cons, List.not_mem_nil, or_false] at hsign
  rcases hsign with rfl | rfl
  · cases hwhole with
    | zero => exact ⟨'0', _, rfl, .inr rfl⟩
    | digits hc => exact ⟨_, _, rfl, .inr hc⟩
  · exact ⟨'-', _, rfl, .inl rfl⟩

namespace Value
open Reader (isBlank)

/-- The first bytes that a value may have. -/
def Opens : Value → UInt8 → Prop
  | .null, b => b = 0x6E
  | .boolean value, b => b = if value then 0x74 else 0x66
  | .number _, b => b = 0x2D ∨ isDigit b
  | .text _, b => b = 0x22
  | .list _, b => b = 0x5B
  | .object _, b => b = 0x7B

theorem exists_opens (value : Value) :
    ∃ token tokens b, value.tokens = token :: tokens ∧ token.Opens b ∧ value.Opens b := by
  cases value with
  | null => exact ⟨_, _, 0x6E, rfl, ⟨_, _, rfl, rfl, rfl⟩, rfl⟩
  | boolean value =>
    cases value with
    | false => exact ⟨_, _, 0x66, rfl, ⟨_, _, rfl, rfl, rfl⟩, rfl⟩
    | true => exact ⟨_, _, 0x74, rfl, ⟨_, _, rfl, rfl, rfl⟩, rfl⟩
  | number numeral =>
    obtain ⟨cs, hcs⟩ := numeral
    obtain ⟨c, cs, rfl, rfl | hdigit⟩ := hcs.exists_cons
    · exact ⟨_, _, 0x2D, rfl, ⟨_, _, rfl, rfl, rfl⟩, .inl rfl⟩
    · obtain ⟨b, hbytes, -, hb⟩ := exists_digit hdigit
      exact ⟨_, _, b, rfl, ⟨_, _, rfl, hbytes, isBlank_of_isDigit hb⟩, .inr hb⟩
  | text s => exact ⟨_, _, 0x22, rfl, rfl, rfl⟩
  | list items => exact ⟨_, _, 0x5B, rfl, ⟨_, _, rfl, rfl, rfl⟩, rfl⟩
  | object members => exact ⟨_, _, 0x7B, rfl, ⟨_, _, rfl, rfl, rfl⟩, rfl⟩

theorem Opens.ne_null {value : Value} {b : UInt8} (h : value.Opens b) (hne : value ≠ .null) : b ≠ 0x6E := by
  rintro rfl
  cases value with
  | null => exact hne rfl
  | boolean value => cases value <;> exact absurd h (by simp [Opens])
  | _ => exact absurd h (by simp [Opens, isDigit])

theorem Opens.ne_close {value : Value} {b : UInt8} (h : value.Opens b) : b ≠ 0x5D := by
  rintro rfl
  cases value with
  | boolean value => cases value <;> exact absurd h (by simp [Opens])
  | _ => exact absurd h (by simp [Opens, isDigit])

/-- A value stands behind the blanks, with its first byte in front. -/
theorem front {value : Value} {input rest : List UInt8} (h : Laid value.tokens input rest) :
    ∃ b tail, value.Opens b ∧ input.dropWhile isBlank = b :: tail ∧ Laid value.tokens (b :: tail) rest := by
  obtain ⟨token, tokens, b, htokens, htoken, hvalue⟩ := value.exists_opens
  rw [htokens] at h ⊢
  obtain ⟨tail, hinput, htail⟩ := h.front htoken
  exact ⟨b, tail, hvalue, hinput, htail⟩

end Value
end SchemaSdl.Json
