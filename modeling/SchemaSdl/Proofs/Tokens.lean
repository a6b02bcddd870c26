import Mathlib
import SchemaSdl.Sdl.Label
import SchemaSdl.Proofs.Legible

/-! How the schema definition language is read: its text is a row of names, marks and strings, with blanks, commas and
comments between them that mean nothing. Numbers and the mark of three dots are left out, since no declaration has
them. -/

namespace SchemaSdl.Lexical
open Text

/-! ### Strings -/

/-- What may follow a backslash in a string of one line, other than a code point. -/
def escapes : List Char := ['"', '\\', '/', 'b', 'f', 'n', 'r', 't']

def isHexDigit (c : Char) : Bool := c.isDigit || ('a' ≤ c && c ≤ 'f') || ('A' ≤ c && c ≤ 'F')

/-- Reads a string of one line from behind the quote that opens it: what is in it, and what follows the quote that
closes it. -/
def lineEnd : List Char → Option (List Char × List Char)
  | [] => none
  | '"' :: rest => some ([], rest)
  | '\\' :: 'u' :: a :: b :: c :: d :: rest =>
    if [a, b, c, d].all isHexDigit then (lineEnd rest).map (Prod.map ('\\' :: 'u' :: a :: b :: c :: d :: ·) id)
    else none
  | '\\' :: c :: rest => if c ∈ escapes then (lineEnd rest).map (Prod.map ('\\' :: c :: ·) id) else none
  | c :: rest => if c ∈ ['\\', '\n', '\r'] then none else (lineEnd rest).map (Prod.map (c :: ·) id)

/-- Reads a block from behind the quotes that open it: what is in it, and what follows the quotes that close it. -/
def blockEnd : List Char → Option (List Char × List Char)
  | [] => none
  | '"' :: '"' :: '"' :: rest => some ([], rest)
  | '\\' :: '"' :: '"' :: '"' :: rest => (blockEnd rest).map (Prod.map ('\\' :: '"' :: '"' :: '"' :: ·) id)
  | c :: rest => (blockEnd rest).map (Prod.map (c :: ·) id)

/-- What may stand in a string of one line: characters other than quotes, backslashes and the ends of lines, and
escapes. -/
inductive LineText : List Char → Prop
  | nil : LineText []
  | char {c : Char} {text : List Char} (hc : c ∉ ['"', '\\', '\n', '\r']) (h : LineText text) : LineText (c :: text)
  | escape {c : Char} {text : List Char} (hc : c ∈ escapes) (h : LineText text) : LineText ('\\' :: c :: text)
  | codePoint {a b c d : Char} {text : List Char} (hdigits : [a, b, c, d].all isHexDigit = true) (h : LineText text) :
    LineText ('\\' :: 'u' :: a :: b :: c :: d :: text)

section Strings
variable {input text rest : List Char} {read : List Char × List Char}

theorem exists_of_lineEnd (h : lineEnd input = some (text, rest)) : input = text ++ '"' :: rest ∧ LineText text := by
  fun_induction lineEnd input generalizing text with
  | case1 => cases h
  | case2 after =>
    cases h
    exact ⟨rfl, .nil⟩
  | case3 a b c d after hdigits ih =>
    obtain ⟨⟨inner, after'⟩, hread, heq⟩ := Option.map_eq_some_iff.mp h
    cases heq
    obtain ⟨rfl, hinner⟩ := ih hread
    exact ⟨rfl, .codePoint hdigits hinner⟩
  | case4 => cases h
  | case5 c after hnot hc ih =>
    obtain ⟨⟨inner, after'⟩, hread, heq⟩ := Option.map_eq_some_iff.mp h
    cases heq
    obtain ⟨rfl, hinner⟩ := ih hread
    exact ⟨rfl, .escape hc hinner⟩
  | case6 => cases h
  | case7 => cases h
  | case8 c after hquote hcode hescape hc ih =>
    obtain ⟨⟨inner, after'⟩, hread, heq⟩ := Option.map_eq_some_iff.mp h
    cases heq
    obtain ⟨rfl, hinner⟩ := ih hread
    refine ⟨rfl, .char ?_ hinner⟩
    rw [List.mem_cons, not_or]
    exact ⟨hquote, hc⟩

theorem lineEnd_of_lineText (h : LineText text) : lineEnd (text ++ '"' :: rest) = some (text, rest) := by
  induction h with
  | nil => rfl
  | @char c text hc h ih =>
    simp only [List.mem_cons, List.not_mem_nil, or_false, not_or] at hc
    obtain ⟨hquote, hslash, hfeed, hreturn⟩ := hc
    rw [List.cons_append, lineEnd.eq_5 _ _ hquote (fun a b c d after hc => absurd hc hslash)
      (fun d after hc => absurd hc hslash)]
    simp [hslash, hfeed, hreturn, ih]
  | @escape c text hc h ih =>
    -- A letter that may be escaped is not taken for the beginning of a code point.
    have hu : c ≠ 'u' := fun hu => absurd (hu ▸ hc) (by decide)
    rw [List.cons_append, List.cons_append, lineEnd.eq_4 _ _ (fun a b c d after hc => absurd hc hu)]
    simp [hc, ih]
  | codePoint hdigits h ih =>
    simp only [List.cons_append]
    rw [lineEnd]
    simp only [hdigits, ↓reduceIte, ih]
    rfl

/-- A string of one line is read up to its first quote behind no escape. -/
theorem lineEnd_eq_some_iff : lineEnd input = some (text, rest) ↔ input = text ++ '"' :: rest ∧ LineText text := by
  constructor
  · exact exists_of_lineEnd
  · rintro ⟨rfl, htext⟩
    exact lineEnd_of_lineText htext

instance : DecidablePred LineText := fun text =>
  decidable_of_iff (lineEnd (text ++ ['"']) = some (text, [])) (by simp [lineEnd_eq_some_iff])

theorem LineText.feed_not_mem (h : LineText text) : '\n' ∉ text := by
  induction h with
  | nil => exact List.not_mem_nil
  | @char c text hc h ih =>
    rw [List.mem_cons, not_or]
    exact ⟨fun hfeed => hc (hfeed ▸ by decide), ih⟩
  | @escape c text hc h ih =>
    simp only [List.mem_cons, not_or]
    exact ⟨by decide, fun hfeed => absurd (hfeed ▸ hc) (by decide), ih⟩
  | @codePoint a b c d text hdigits h ih =>
    have hfour : '\n' ∉ [a, b, c, d] := fun hfeed => absurd (List.all_eq_true.mp hdigits _ hfeed) (by decide)
    simp only [List.mem_cons, List.not_mem_nil, or_false, not_or] at hfour ⊢
    obtain ⟨ha, hb, hc, hd⟩ := hfour
    exact ⟨by decide, by decide, ha, hb, hc, hd, ih⟩

/-! ### Blocks -/

theorem append_of_blockEnd (h : blockEnd input = some (text, rest)) : input = text ++ '"' :: '"' :: '"' :: rest := by
  fun_induction blockEnd input generalizing text with
  | case1 => cases h
  | case2 after =>
    cases h
    rfl
  | case3 after ih =>
    obtain ⟨⟨inner, after'⟩, hread, heq⟩ := Option.map_eq_some_iff.mp h
    cases heq
    rw [ih hread]
    rfl
  | case4 c after hquotes hescape ih =>
    obtain ⟨⟨inner, after'⟩, hread, heq⟩ := Option.map_eq_some_iff.mp h
    cases heq
    rw [ih hread]
    rfl

theorem blockEnd_of_not_mem (h : '"' ∉ input) : blockEnd input = none := by
  rw [Option.eq_none_iff_forall_ne_some]
  rintro ⟨text, rest⟩ hread
  rw [append_of_blockEnd hread] at h
  exact h (by simp)

theorem exists_of_append_cons (opening : List Char) {after : List Char} {c : Char} (hc : c ∉ opening)
    (h : after ++ c :: rest = opening ++ text) : ∃ more, after = opening ++ more := by
  induction opening generalizing after with
  | nil => exact ⟨after, rfl⟩
  | cons x opening ih =>
    rw [List.mem_cons, not_or] at hc
    cases after with
    | nil => exact absurd (List.cons.inj h).1 hc.1
    | cons y after =>
      obtain ⟨rfl, hrest⟩ := List.cons.inj h
      obtain ⟨more, rfl⟩ := ih hc.2 hrest
      exact ⟨more, rfl⟩

/-- A block that has no end inside ends at the quotes behind it, unless what stands in front of them belongs to them. -/
theorem blockEnd_append {c : Char} (hquote : c ≠ '"') (hslash : c ≠ '\\') (h : blockEnd text = none) :
    blockEnd (text ++ c :: '"' :: '"' :: '"' :: rest) = some (text ++ [c], rest) := by
  fun_induction blockEnd text with
  | case1 =>
    rw [List.nil_append, blockEnd.eq_4 _ _ (fun _ hc => absurd hc hquote) (fun _ hc => absurd hc hslash), blockEnd]
    rfl
  | case2 => cases h
  | case3 after ih =>
    simp only [List.cons_append]
    rw [blockEnd, ih (Option.map_eq_none_iff.mp h)]
    rfl
  | case4 x after hquotes hescape ih =>
    -- Neither three quotes nor their escape reach over the character behind the text.
    rw [List.cons_append, blockEnd.eq_4, ih (Option.map_eq_none_iff.mp h)]
    · rfl
    · intro more hx heq
      obtain ⟨inner, rfl⟩ := exists_of_append_cons ['"', '"'] (by simp [hquote]) heq
      exact hquotes inner hx rfl
    · intro more hx heq
      obtain ⟨inner, rfl⟩ := exists_of_append_cons ['"', '"', '"'] (by simp [hquote]) heq
      exact hescape inner hx rfl

end Strings

/-! ### Tokens -/

/-- What a text is made of. Strings are told by what stands between their quotes. -/
inductive Token where
  | name (text : String)
  | mark (c : Char)
  | line (text : String)
  | block (text : String)
deriving DecidableEq

/-- Blanks, ends of lines, commas and the mark of byte order. -/
def isIgnored (c : Char) : Bool := [' ', '\t', '\n', '\r', ',', '\uFEFF'].contains c

def isMark (c : Char) : Bool :=
  ['!', '$', '&', '(', ')', ':', '=', '@', '[', ']', '\x7b', '|', '\x7d'].contains c

def isNameStart (c : Char) : Bool := isWordChar c && !c.isDigit

/-- The text from its next token on, inside a comment or not. A comment goes on to the end of its line. -/
def skip (comment : Bool) : List Char → List Char
  | [] => []
  | c :: rest =>
    if comment then skip (c ≠ '\n' && c ≠ '\r') rest
    else if c = '#' then skip true rest
    else if isIgnored c then skip false rest
    else c :: rest

/-- Reads a string from behind its first quote. -/
def string? : List Char → Option (Token × List Char)
  | '"' :: '"' :: rest => (blockEnd rest).map (Prod.map (.block ∘ String.ofList) id)
  | rest => (lineEnd rest).map (Prod.map (.line ∘ String.ofList) id)

/-- The token that begins with a character, and what follows it. -/
def next? (c : Char) (rest : List Char) : Option (Token × List Char) :=
  if c = '"' then string? rest
  else if isNameStart c then some (.name (String.ofList (c :: rest.takeWhile isWordChar)), rest.dropWhile isWordChar)
  else if isMark c then some (.mark c, rest)
  else none

section Reading
variable {input rest after : List Char} {c : Char} {token : Token}

theorem length_skip_le {comment : Bool} : (skip comment input).length ≤ input.length := by
  fun_induction skip comment input with
  | case1 => exact Nat.le_refl _
  | case2 => exact Nat.le_succ_of_le ‹_›
  | case3 => exact Nat.le_succ_of_le ‹_›
  | case4 => exact Nat.le_succ_of_le ‹_›
  | case5 => exact Nat.le_refl _

theorem length_le_of_string? (h : string? rest = some (token, after)) : after.length ≤ rest.length := by
  unfold string? at h
  split at h
  · obtain ⟨⟨text, after'⟩, hread, heq⟩ := Option.map_eq_some_iff.mp h
    cases heq
    simp only [append_of_blockEnd hread, id_eq, List.length_append, List.length_cons]
    omega
  · obtain ⟨⟨text, after'⟩, hread, heq⟩ := Option.map_eq_some_iff.mp h
    cases heq
    simp only [(exists_of_lineEnd hread).1, id_eq, List.length_append, List.length_cons]
    omega

theorem length_le_of_next? (h : next? c rest = some (token, after)) : after.length ≤ rest.length := by
  unfold next? at h
  split at h
  · exact length_le_of_string? h
  · split at h
    · cases h
      exact (List.dropWhile_sublist _).length_le
    · split at h
      · cases h
        exact Nat.le_refl _
      · cases h

theorem length_lt_of_next? (hskip : skip false input = c :: rest) (h : next? c rest = some (token, after)) :
    after.length < input.length := by
  have hrest : (skip false input).length ≤ input.length := length_skip_le
  have hafter := length_le_of_next? h
  rw [hskip, List.length_cons] at hrest
  omega

end Reading

/-- The tokens of a text, if it is made of tokens. -/
def tokens? (input : List Char) : Option (List Token) :=
  match hskip : skip false input with
  | [] => some []
  | c :: rest =>
    match hnext : next? c rest with
    | none => none
    | some (token, after) =>
      have := length_lt_of_next? hskip hnext
      (tokens? after).map (token :: ·)
termination_by input.length

section Reading
variable {input rest after : List Char} {c : Char} {token : Token} {word : String}

theorem tokens?_eq (input : List Char) : tokens? input =
    match skip false input with
    | [] => some []
    | c :: rest => (next? c rest).bind fun read => (tokens? read.2).map (read.1 :: ·) := by
  rw [tokens?]
  split
  · rename_i hskip
    simp only [hskip]
  · rename_i c rest hskip
    split
    · rename_i hnext
      simp only [hskip, hnext, Option.bind_none]
    · rename_i token after hnext
      simp only [hskip, hnext, Option.bind_some]

theorem tokens?_nil : tokens? [] = some [] := by rw [tokens?_eq, skip]

theorem tokens?_cons_of_isIgnored (h : isIgnored c = true) : tokens? (c :: rest) = tokens? rest := by
  have hcomment : c ≠ '#' := fun hc => absurd (hc ▸ h) (by decide)
  rw [tokens?_eq, skip, if_neg Bool.false_ne_true, if_neg hcomment, if_pos h, ← tokens?_eq]

theorem tokens?_cons (hcomment : c ≠ '#') (hignored : isIgnored c = false) : tokens? (c :: rest) =
    (next? c rest).bind fun read => (tokens? read.2).map (read.1 :: ·) := by
  rw [tokens?_eq, skip, if_neg Bool.false_ne_true, if_neg hcomment, hignored, if_neg Bool.false_ne_true]

theorem tokens?_mark (h : isMark c = true) : tokens? (c :: rest) = (tokens? rest).map (.mark c :: ·) := by
  simp only [isMark, List.contains_eq_mem, List.mem_cons, List.not_mem_nil, or_false, decide_eq_true_eq] at h
  have hother : c ≠ '#' ∧ isIgnored c = false ∧ c ≠ '"' ∧ isNameStart c = false := by
    rcases h with rfl | rfl | rfl | rfl | rfl | rfl | rfl | rfl | rfl | rfl | rfl | rfl | rfl <;> decide
  obtain ⟨hcomment, hignored, hquote, hname⟩ := hother
  rw [tokens?_cons hcomment hignored, next?, if_neg hquote, hname, if_neg Bool.false_ne_true, if_pos]
  · rfl
  · simpa [isMark] using h

theorem tokens?_line (h : ∀ more, rest ≠ '"' :: '"' :: more) : tokens? ('"' :: rest) =
    (lineEnd rest).bind fun read => (tokens? read.2).map (.line (String.ofList read.1) :: ·) := by
  rw [tokens?_cons (by decide) (by decide), next?, if_pos rfl, string?, Option.bind_map]
  · rfl
  · exact h

theorem tokens?_block : tokens? ('"' :: '"' :: '"' :: rest) =
    (blockEnd rest).bind fun read => (tokens? read.2).map (.block (String.ofList read.1) :: ·) := by
  rw [tokens?_cons (by decide) (by decide), next?, if_pos rfl, string?, Option.bind_map]
  rfl

/-! ### Names -/

/-- A word that does not begin with a digit. -/
def IsIdentifier (text : String) : Prop := IsWord text ∧ text.toList.head?.any Char.isDigit = false

instance : DecidablePred IsIdentifier := fun text =>
  inferInstanceAs (Decidable (IsWord text ∧ text.toList.head?.any Char.isDigit = false))

theorem isIdentifier_scalar (scalar : Scalar) : IsIdentifier scalar.name := by
  cases scalar <;> decide

theorem takeWhile_dropWhile_word {more : List Char} (hmore : ∀ x ∈ more, isWordChar x = true)
    (hrest : ∀ x ∈ rest.head?, isWordChar x = false) :
    (more ++ rest).takeWhile isWordChar = more ∧ (more ++ rest).dropWhile isWordChar = rest := by
  rw [List.takeWhile_append_of_pos hmore, List.dropWhile_append_of_pos hmore]
  cases rest with
  | nil => simp
  | cons x rest => simp [hrest x rfl]

theorem tokens?_identifier (h : IsIdentifier word) (hrest : ∀ x ∈ rest.head?, isWordChar x = false) :
    tokens? (word.toList ++ rest) = (tokens? rest).map (.name word :: ·) := by
  obtain ⟨hword, hdigit⟩ := h
  obtain ⟨x, more, hlist, hx⟩ := hword.exists_cons
  have hmore : ∀ y ∈ more, isWordChar y = true := fun y hy =>
    List.all_eq_true.mp hword.2 y (hlist ▸ List.mem_cons_of_mem _ hy)
  have hstart : isNameStart x = true := by
    rw [hlist, List.head?_cons, Option.any_some] at hdigit
    simp [isNameStart, hx, hdigit]
  have hignored : isIgnored x = false := by
    by_contra hignored
    simp only [isIgnored, List.contains_eq_mem, List.mem_cons, List.not_mem_nil, or_false, Bool.not_eq_false,
      decide_eq_true_eq] at hignored
    rcases hignored with rfl | rfl | rfl | rfl | rfl | rfl <;> exact absurd hx (by decide)
  obtain ⟨htake, hdrop⟩ := takeWhile_dropWhile_word hmore hrest
  have hcomment : x ≠ '#' := fun hc => absurd (hc ▸ hx) (by decide)
  have hquote : x ≠ '"' := fun hc => absurd (hc ▸ hx) (by decide)
  rw [hlist, List.cons_append, tokens?_cons hcomment hignored, next?, if_neg hquote, if_pos hstart, htake, hdrop,
    ← hlist, String.ofList_toList]
  rfl

/-- An escape does not end a block, and a comment is not read. -/
example : tokens? "\"\"\"a \\\"\"\" b\"\"\" # c\n x_1: [Int]!".toList =
    some [.block "a \\\"\"\" b", .name "x_1", .mark ':', .mark '[', .name "Int", .mark ']', .mark '!'] := by
  cbv

end Reading
end SchemaSdl.Lexical

/-! ### Labels -/

namespace SchemaSdl.Label
open Lexical Text
variable {label : Label} {rest : List Char}

/-- Named types have identifiers for names. -/
def Identified : Label → Prop
  | .scalar _ => True
  | .named name => IsIdentifier name
  | .list item => item.Identified

instance decidableIdentified : DecidablePred Identified
  | .scalar _ => isTrue trivial
  | .named name => inferInstanceAs (Decidable (IsIdentifier name))
  | .list item => decidableIdentified item

/-- A name in as many brackets as there are lists around it. -/
def tokens : Label → List Token
  | .scalar s => [.name s.name]
  | .named name => [.name name]
  | .list item => .mark '[' :: (item.tokens ++ [.mark ']'])

theorem tokens?_text (h : label.Identified) (hrest : ∀ x ∈ rest.head?, isWordChar x = false) :
    tokens? (label.text.toList ++ rest) = (tokens? rest).map (label.tokens ++ ·) := by
  induction label generalizing rest with
  | scalar s => exact tokens?_identifier (isIdentifier_scalar s) hrest
  | named name => exact tokens?_identifier h hrest
  | list item ih =>
    have hlist : (Label.list item).text.toList ++ rest = '[' :: (item.text.toList ++ ']' :: rest) := by simp [text]
    rw [hlist, tokens?_mark (by decide), ih h (by rintro x ⟨⟩; decide), tokens?_mark (by decide), Option.map_map,
      Option.map_map]
    congr 1
    funext more
    simp [tokens]

end SchemaSdl.Label
