import Mathlib.Tactic.IntervalCases
import SchemaSdl.Proofs.Json.Scanning

/-! String literals. However the characters of a string are spelled, its literal is read back as the string and
passed over in one piece. -/

namespace SchemaSdl.Json
variable {c : Char} {cs digits piece : List Char} {pieces : List (List Char)} {input tail rest : List UInt8}

/-! ### Escapes -/

theorem IsHexDigit.exists_byte {k : Nat} (h : IsHexDigit k c) :
    ∃ b, String.utf8EncodeChar c = [b] ∧ hexValue? b = some k := by
  have hk : k < 16 := by
    rcases h with h | h <;> exact (List.getElem?_eq_some_iff.mp h).1
  rcases h with h | h <;> interval_cases k <;> obtain rfl := Option.some.inj h <;> exact ⟨_, rfl, rfl⟩

theorem IsHex.exists_bytes {n : Nat} (h : IsHex n digits) :
    ∃ b1 b2 b3 b4, bytes digits = [b1, b2, b3, b4] ∧ hexNumber? [b1, b2, b3, b4] = some n := by
  obtain ⟨hn, hdigits⟩ := h
  obtain _ | ⟨h1, _ | ⟨h2, _ | ⟨h3, _ | ⟨h4, _ | _⟩⟩⟩⟩ := hdigits
  obtain ⟨b1, hb1, hvalue1⟩ := h1.exists_byte
  obtain ⟨b2, hb2, hvalue2⟩ := h2.exists_byte
  obtain ⟨b3, hb3, hvalue3⟩ := h3.exists_byte
  obtain ⟨b4, hb4, hvalue4⟩ := h4.exists_byte
  refine ⟨b1, b2, b3, b4, by simp [hb1, hb2, hb3, hb4], ?_⟩
  simp only [hexNumber?, List.foldlM_cons, List.foldlM_nil, hvalue1, hvalue2, hvalue3, hvalue4, bind, pure,
    Option.bind_some, Option.some.injEq]
  omega

namespace Reader

theorem takes_hexEscape {n : Nat} (h : IsHex n digits) : hexEscape.Takes (bytes digits ++ tail) n tail := by
  obtain ⟨b1, b2, b3, b4, hbytes, hn⟩ := h.exists_bytes
  rw [hbytes]
  refine ⟨by simp only [List.cons_append, List.nil_append, List.length_cons]; omega, ?_⟩
  simp [hexEscape, hn]

theorem takes_escapeByte {b : UInt8} : (escapeByte b).Takes (b :: rest) () rest := by
  refine takes_next.bind ?_
  dsimp only
  rw [if_pos rfl]
  exact takes_pure ()

theorem takes_codePointEscape (h : IsHex c.toNat digits) : codePointEscape.Takes (bytes digits ++ tail) c tail := by
  have hvalid : c.toNat < 0xD800 ∨ 0xDFFF < c.toNat := by
    rcases c.valid with hlt | ⟨hgt, -⟩
    · exact .inl hlt
    · exact .inr hgt
  refine (takes_hexEscape h).bind ?_
  rw [if_neg (by simp only [Bool.and_eq_true, decide_eq_true_eq]; omega),
    if_neg (by simp only [Bool.and_eq_true, decide_eq_true_eq]; omega), Char.ofNat_toNat]
  exact takes_pure c

theorem takes_codePointEscape_surrogates {leading trailing : List Char} (h : 0x10000 ≤ c.toNat)
    (hleading : IsHex (0xD800 + (c.toNat - 0x10000) / 0x400) leading)
    (htrailing : IsHex (0xDC00 + (c.toNat - 0x10000) % 0x400) trailing) :
    codePointEscape.Takes (bytes leading ++ 0x5C :: 0x75 :: (bytes trailing ++ tail)) c tail := by
  have hmax := toNat_lt c
  have hchar : surrogatePair (0xD800 + (c.toNat - 0x10000) / 0x400) (0xDC00 + (c.toNat - 0x10000) % 0x400) = c := by
    have hsum : 0x10000 + (0xD800 + (c.toNat - 0x10000) / 0x400 - 0xD800) * 0x400 +
        (0xDC00 + (c.toNat - 0x10000) % 0x400 - 0xDC00) = c.toNat := by omega
    rw [surrogatePair, hsum, Char.ofNat_toNat]
  refine (takes_hexEscape hleading).bind ?_
  rw [if_neg (by simp only [Bool.and_eq_true, decide_eq_true_eq]; omega),
    if_pos (by simp only [Bool.and_eq_true, decide_eq_true_eq]; omega)]
  refine takes_escapeByte.bind (takes_escapeByte.bind ((takes_hexEscape htrailing).bind ?_))
  rw [if_pos (by simp only [Bool.and_eq_true, decide_eq_true_eq]; omega), hchar]
  exact takes_pure c

theorem escapeLetter?_of_mem {letter : Char} (h : (c, letter) ∈ letters) :
    ∃ b, String.utf8EncodeChar letter = [b] ∧ b ≠ 0x75 ∧ escapeLetter? b = some c := by
  simp only [letters, List.mem_cons, Prod.mk.injEq, List.not_mem_nil, or_false] at h
  rcases h with ⟨rfl, rfl⟩ | ⟨rfl, rfl⟩ | ⟨rfl, rfl⟩ | ⟨rfl, rfl⟩ | ⟨rfl, rfl⟩ | ⟨rfl, rfl⟩ | ⟨rfl, rfl⟩ |
    ⟨rfl, rfl⟩ <;> exact ⟨_, rfl, by decide, rfl⟩

/-- An escape is read back as its character. -/
theorem literalFrom_escape {origin : List UInt8} {chars : List Char} {broken : Option Nat}
    {le : (0x5C :: input).length ≤ origin.length} (h : escape.Takes input c rest) :
    ∃ le', literalFrom chars broken (0x5C :: input) le = literalFrom (c :: chars) broken rest le' := by
  obtain ⟨le', h⟩ := h
  refine ⟨Nat.le_trans le' (Nat.le_trans (Nat.le_succ _) le), ?_⟩
  rw [literalFrom.eq_def]
  simp [h]

theorem takes_escape_codePoint (h : codePointEscape.Takes input c rest) : escape.Takes (0x75 :: input) c rest :=
  takes_next.bind h

theorem takes_escape_letter {letter : Char} (h : (c, letter) ∈ letters) :
    escape.Takes (bytes [letter] ++ tail) c tail := by
  obtain ⟨b, hbytes, hne, hb⟩ := escapeLetter?_of_mem h
  rw [bytes_cons, hbytes, bytes_nil, List.append_nil, List.singleton_append]
  refine takes_next.bind ?_
  split
  · rename_i heq
    cases heq
  · rename_i heq
    exact absurd (Option.some.inj heq) hne
  · rename_i heq
    rw [← Option.some.inj heq, hb]
    exact takes_pure c

/-- The bytes of a character that stands for itself end no literal and begin no escape. -/
theorem plain_byte {b : UInt8} (hcontrol : ' ' ≤ c) (hquote : c ≠ '"') (hescape : c ≠ '\\')
    (hb : b ∈ String.utf8EncodeChar c) : b ≠ 0x22 ∧ b ≠ 0x5C ∧ ¬ b < 0x20 := by
  have hspace : 0x20 ≤ c.toNat := hcontrol
  rcases toNat_of_mem_utf8EncodeChar hb with heq | hle
  · refine ⟨?_, ?_, ?_⟩
    · rintro rfl
      exact hquote (by rw [← Char.ofNat_toNat c, ← heq]; rfl)
    · rintro rfl
      exact hescape (by rw [← Char.ofNat_toNat c, ← heq]; rfl)
    · rw [UInt8.lt_iff_toNat_lt, heq]
      exact Nat.not_lt.mpr hspace
  · refine ⟨?_, ?_, ?_⟩
    · rintro rfl
      exact absurd hle (by decide)
    · rintro rfl
      exact absurd hle (by decide)
    · rw [UInt8.lt_iff_toNat_lt]
      exact Nat.not_lt.mpr (Nat.le_trans (by decide) hle)

/-- A character that stands for itself is read back from its bytes. -/
theorem literalFrom_plain {origin : List UInt8} {chars : List Char} (hcontrol : ' ' ≤ c) (hquote : c ≠ '"')
    (hescape : c ≠ '\\') {le : (String.utf8EncodeChar c ++ tail).length ≤ origin.length} :
    ∃ le', literalFrom chars none (String.utf8EncodeChar c ++ tail) le = literalFrom (c :: chars) none tail le' := by
  have hplain (b : UInt8) (hb : b ∈ String.utf8EncodeChar c) := plain_byte hcontrol hquote hescape hb
  have hchar := character?_utf8EncodeChar c tail
  revert le
  cases hbytes : String.utf8EncodeChar c with
  | nil => exact absurd hbytes String.utf8EncodeChar_ne_nil
  | cons b more =>
    rw [hbytes] at hplain hchar
    intro le
    obtain ⟨hne, hne', hlt⟩ := hplain b List.mem_cons_self
    have hdrop : (more ++ tail).drop (more.length + 1 - 1) = tail := by simp
    refine ⟨by simp only [List.length_append, List.length_cons] at le; omega, ?_⟩
    rw [List.cons_append, List.length_cons] at hchar
    simp only [List.cons_append]
    rw [literalFrom, if_neg hne, if_neg hne', if_neg hlt]
    simp only [hchar, hdrop]

theorem bytes_surrogates (leading trailing : List Char) (tail : List UInt8) :
    bytes ('\\' :: 'u' :: leading ++ '\\' :: 'u' :: trailing) ++ tail =
      0x5C :: 0x75 :: (bytes leading ++ 0x5C :: 0x75 :: (bytes trailing ++ tail)) := by
  rw [bytes_append, List.append_assoc]
  rfl

/-- However a character is spelled, it is read back. -/
theorem literalFrom_spelling {origin : List UInt8} {chars : List Char} (h : Spelling c piece)
    {le : (bytes piece ++ tail).length ≤ origin.length} :
    ∃ le', literalFrom chars none (bytes piece ++ tail) le = literalFrom (c :: chars) none tail le' := by
  cases h with
  | plain hcontrol hquote hescape =>
    have hbytes : bytes [c] ++ tail = String.utf8EncodeChar c ++ tail := by simp
    revert le
    rw [hbytes]
    exact literalFrom_plain hcontrol hquote hescape
  | letter h => exact literalFrom_escape (takes_escape_letter h)
  | codePoint h => exact literalFrom_escape (takes_escape_codePoint (takes_codePointEscape h))
  | @surrogates leading trailing h hleading htrailing =>
    revert le
    rw [bytes_surrogates]
    exact literalFrom_escape (takes_escape_codePoint (takes_codePointEscape_surrogates h hleading htrailing))

theorem bytes_pieces_cons :
    bytes (piece :: pieces).flatten ++ tail = bytes piece ++ (bytes pieces.flatten ++ tail) := by
  rw [List.flatten_cons, bytes_append, List.append_assoc]

/-- The characters read so far and those that are still to be read make up the string. -/
theorem literalFrom_spellings {origin : List UInt8} {chars : List Char} (h : List.Forall₂ Spelling cs pieces)
    (le : (bytes pieces.flatten ++ 0x22 :: rest).length ≤ origin.length) :
    Gives (literalFrom chars none (bytes pieces.flatten ++ 0x22 :: rest) le) (String.ofList (chars.reverse ++ cs))
      rest := by
  induction h generalizing chars with
  | nil =>
    refine ⟨Nat.le_trans (Nat.le_succ _) le, ?_⟩
    simp [literalFrom]
  | @cons c piece cs pieces hpiece _ ih =>
    -- The bound is on the length of the input, and has to be rewritten along with it.
    revert le
    rw [bytes_pieces_cons]
    intro le
    obtain ⟨le', hstep⟩ := literalFrom_spelling hpiece
    have hrest := @ih (c :: chars) le'
    rw [List.reverse_cons, List.append_assoc, List.singleton_append] at hrest
    rw [hstep]
    exact hrest

/-- A literal is read back as its string. -/
theorem takes_literal {s : String} (h : List.Forall₂ Spelling s.toList pieces) :
    literal.Takes (bytes pieces.flatten ++ 0x22 :: rest) s rest := by
  have hread := @literalFrom_spellings _ _ rest _ [] h (Nat.le_refl _)
  rw [List.reverse_nil, List.nil_append, String.ofList_toList] at hread
  exact hread

/-! ### Passing over -/

theorem takes_skipEscape_codePoint {n : Nat} (h : IsHex n digits) :
    skipEscape.Takes (0x75 :: (bytes digits ++ tail)) () tail :=
  takes_next.bind ((takes_hexEscape h).bind (takes_pure ()))

theorem takes_skipEscape_letter {letter : Char} (h : (c, letter) ∈ letters) :
    skipEscape.Takes (bytes [letter] ++ tail) () tail := by
  obtain ⟨b, hbytes, hne, hb⟩ := escapeLetter?_of_mem h
  rw [bytes_cons, hbytes, bytes_nil, List.append_nil, List.singleton_append]
  refine takes_next.bind ?_
  split
  · rename_i heq
    cases heq
  · rename_i heq
    exact absurd (Option.some.inj heq) hne
  · rename_i heq
    rw [← Option.some.inj heq, hb]
    exact takes_pure ()

theorem skipLiteralFrom_escape {origin : List UInt8} {le : (0x5C :: input).length ≤ origin.length}
    (h : skipEscape.Takes input () rest) :
    ∃ le', skipLiteralFrom (0x5C :: input) le = skipLiteralFrom rest le' := by
  obtain ⟨le', h⟩ := h
  refine ⟨Nat.le_trans le' (Nat.le_trans (Nat.le_succ _) le), ?_⟩
  rw [skipLiteralFrom]
  simp [h]

theorem skipLiteralFrom_bytes {origin bs : List UInt8} (h : ∀ b ∈ bs, b ≠ 0x22 ∧ b ≠ 0x5C ∧ ¬ b < 0x20)
    {le : (bs ++ tail).length ≤ origin.length} :
    ∃ le', skipLiteralFrom (bs ++ tail) le = skipLiteralFrom tail le' := by
  induction bs with
  | nil => exact ⟨le, rfl⟩
  | cons b bs ih =>
    obtain ⟨⟨hne, hne', hlt⟩, hbs⟩ := List.forall_mem_cons.mp h
    obtain ⟨le', hrest⟩ := @ih hbs (Nat.le_trans (Nat.le_succ _) le)
    refine ⟨le', ?_⟩
    rw [← hrest]
    simp only [List.cons_append]
    rw [skipLiteralFrom, if_neg hne, if_neg hne', if_neg hlt]

/-- However a character is spelled, it is passed over. -/
theorem skipLiteralFrom_spelling {origin : List UInt8} (h : Spelling c piece)
    {le : (bytes piece ++ tail).length ≤ origin.length} :
    ∃ le', skipLiteralFrom (bytes piece ++ tail) le = skipLiteralFrom tail le' := by
  cases h with
  | plain hcontrol hquote hescape =>
    refine skipLiteralFrom_bytes fun b hb => plain_byte hcontrol hquote hescape ?_
    simpa using hb
  | letter h => exact skipLiteralFrom_escape (takes_skipEscape_letter h)
  | codePoint h => exact skipLiteralFrom_escape (takes_skipEscape_codePoint h)
  | @surrogates leading trailing h hleading htrailing =>
    revert le
    rw [bytes_surrogates]
    intro le
    obtain ⟨le', hfirst⟩ := skipLiteralFrom_escape (takes_skipEscape_codePoint hleading)
    obtain ⟨le'', hsecond⟩ := skipLiteralFrom_escape (takes_skipEscape_codePoint htrailing)
    exact ⟨le'', hfirst.trans hsecond⟩

theorem takes_skipLiteral (h : List.Forall₂ Spelling cs pieces) :
    skipLiteral.Takes (bytes pieces.flatten ++ 0x22 :: rest) () rest := by
  suffices hfrom : ∀ {origin : List UInt8} (le : (bytes pieces.flatten ++ 0x22 :: rest).length ≤ origin.length),
      Gives (skipLiteralFrom (bytes pieces.flatten ++ 0x22 :: rest) le) () rest from hfrom (Nat.le_refl _)
  intro origin le
  induction h with
  | nil =>
    refine ⟨Nat.le_trans (Nat.le_succ _) le, ?_⟩
    simp [skipLiteralFrom]
  | @cons c piece cs pieces hpiece _ ih =>
    revert le
    rw [bytes_pieces_cons]
    intro le
    obtain ⟨le', hstep⟩ := skipLiteralFrom_spelling hpiece
    rw [hstep]
    exact ih le'

end Reader
end SchemaSdl.Json
