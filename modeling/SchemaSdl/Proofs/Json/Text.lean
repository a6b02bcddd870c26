import Mathlib.Data.List.Forall2

/-! JSON values and the texts that write them. A text writes a value if it is made of the tokens of that value with
any blanks between them. Of a string literal only its characters count, which may be escaped in any way. -/

namespace SchemaSdl.Json

/-! ### Numerals -/

/-- Digits, at least one of them. -/
def IsDigits (cs : List Char) : Prop := cs ≠ [] ∧ ∀ c ∈ cs, c.isDigit

/-- The whole part of a numeral begins with a zero only if it is one. -/
inductive IsWhole : List Char → Prop
  | zero : IsWhole ['0']
  | digits {c : Char} {cs : List Char} (hc : c.isDigit) (hne : c ≠ '0') (hcs : ∀ d ∈ cs, d.isDigit) : IsWhole (c :: cs)

/-- The fraction of a numeral, if it has one. -/
inductive IsFraction : List Char → Prop
  | none : IsFraction []
  | digits {cs : List Char} (h : IsDigits cs) : IsFraction ('.' :: cs)

/-- The exponent of a numeral, if it has one. -/
inductive IsExponent : List Char → Prop
  | none : IsExponent []
  | digits {mark : Char} {sign cs : List Char} (hmark : mark ∈ ['e', 'E']) (hsign : sign ∈ [[], ['+'], ['-']])
      (h : IsDigits cs) : IsExponent (mark :: sign ++ cs)

/-- The numerals of JSON. -/
def IsNumeral (cs : List Char) : Prop :=
  ∃ sign whole fraction exponent, cs = sign ++ whole ++ fraction ++ exponent ∧ sign ∈ [[], ['-']] ∧ IsWhole whole ∧
    IsFraction fraction ∧ IsExponent exponent

/-! ### Characters of a literal -/

/-- A hexadecimal digit of this value, small or capital. -/
def IsHexDigit (k : Nat) (c : Char) : Prop :=
  "0123456789abcdef".toList[k]? = some c ∨ "0123456789ABCDEF".toList[k]? = some c

/-- Four hexadecimal digits that write a number. -/
def IsHex (n : Nat) (cs : List Char) : Prop :=
  n < 0x10000 ∧ List.Forall₂ IsHexDigit [n / 0x1000, n / 0x100 % 0x10, n / 0x10 % 0x10, n % 0x10] cs

/-- The characters with an escape by letter, and the letters. -/
def letters : List (Char × Char) :=
  [('"', '"'), ('\\', '\\'), ('/', '/'), ('\x08', 'b'), ('\x0c', 'f'), ('\n', 'n'), ('\r', 'r'), ('\t', 't')]

/-- The ways to write a character inside a literal. -/
inductive Spelling : Char → List Char → Prop
  | plain {c : Char} (hcontrol : ' ' ≤ c) (hquote : c ≠ '"') (hescape : c ≠ '\\') : Spelling c [c]
  | letter {c letter : Char} (h : (c, letter) ∈ letters) : Spelling c ['\\', letter]
  | codePoint {c : Char} {digits : List Char} (h : IsHex c.toNat digits) : Spelling c ('\\' :: 'u' :: digits)
  | surrogates {c : Char} {leading trailing : List Char} (h : 0x10000 ≤ c.toNat)
      (hleading : IsHex (0xD800 + (c.toNat - 0x10000) / 0x400) leading)
      (htrailing : IsHex (0xDC00 + (c.toNat - 0x10000) % 0x400) trailing) :
      Spelling c ('\\' :: 'u' :: leading ++ '\\' :: 'u' :: trailing)

/-- A literal of a string: its characters, one after another in quotes. -/
def IsLiteral (s : String) (cs : List Char) : Prop :=
  ∃ pieces, List.Forall₂ Spelling s.toList pieces ∧ cs = '"' :: (pieces.flatten ++ ['"'])

/-! ### Values -/

/-- JSON values. An object has its members in order and may repeat their names. -/
inductive Value where
  | null
  | boolean (value : Bool)
  | number (numeral : { cs : List Char // IsNumeral cs })
  | text (text : String)
  | list (items : List Value)
  | object (members : List (String × Value))

/-- What holds of a value when it holds of the values in it holds of all values. -/
@[elab_as_elim] theorem Value.induction {P : Value → Prop} (null : P .null) (boolean : ∀ value, P (.boolean value))
    (number : ∀ numeral, P (.number numeral)) (text : ∀ s, P (.text s))
    (list : ∀ items, (∀ item ∈ items, P item) → P (.list items))
    (object : ∀ members, (∀ member ∈ members, P member.2) → P (.object members)) : ∀ value, P value
  | .null => null
  | .boolean value => boolean value
  | .number numeral => number numeral
  | .text s => text s
  | .list items => list items fun item _ => induction null boolean number text list object item
  | .object members => object members fun member _ => induction null boolean number text list object member.2
termination_by value => sizeOf value
decreasing_by
  · have hitem := List.sizeOf_lt_of_mem ‹item ∈ items›
    simp only [Value.list.sizeOf_spec]
    omega
  · have hmember := List.sizeOf_lt_of_mem ‹member ∈ members›
    obtain ⟨name, value⟩ := member
    simp only [Value.object.sizeOf_spec, Prod.mk.sizeOf_spec] at hmember ⊢
    omega

/-- The smallest parts of a JSON text: what is written in one way, and strings. -/
inductive Token where
  | word (cs : List Char)
  | text (s : String)

/-- A bracket, a comma or a colon. -/
def Token.mark (c : Char) : Token := .word [c]

/-- How a token is written. -/
def Token.WrittenAs : Token → List Char → Prop
  | .word cs, written => written = cs
  | .text s, written => IsLiteral s written

/-- Groups of tokens with commas between them. -/
def separated : List (List Token) → List Token
  | [] => []
  | group :: groups => group ++ groups.flatMap (.mark ',' :: ·)

namespace Value

mutual

/-- The tokens of a value. -/
def tokens : Value → List Token
  | .null => [.word "null".toList]
  | .boolean value => [.word (if value then "true" else "false").toList]
  | .number numeral => [.word numeral.1]
  | .text s => [.text s]
  | .list items => .mark '[' :: separated (itemTokens items) ++ [.mark ']']
  | .object members => .mark '\x7b' :: separated (memberTokens members) ++ [.mark '\x7d']

/-- The tokens of the values in a list. -/
def itemTokens : List Value → List (List Token)
  | [] => []
  | item :: items => tokens item :: itemTokens items

/-- The tokens of the members of an object. -/
def memberTokens : List (String × Value) → List (List Token)
  | [] => []
  | (name, value) :: members => (.text name :: .mark ':' :: tokens value) :: memberTokens members

end

theorem itemTokens_eq (items : List Value) : itemTokens items = items.map tokens := by
  induction items with
  | nil => rfl
  | cons item items ih => rw [itemTokens, ih, List.map_cons]

theorem memberTokens_eq (members : List (String × Value)) :
    memberTokens members = members.map fun member => .text member.1 :: .mark ':' :: member.2.tokens := by
  induction members with
  | nil => rfl
  | cons member members ih => rw [memberTokens, ih, List.map_cons]

mutual

/-- How many lists and objects stand inside each other in a value. -/
def depth : Value → Nat
  | .list items => itemDepth items + 1
  | .object members => memberDepth members + 1
  | _ => 0

/-- The depth of the deepest value in a list. -/
def itemDepth : List Value → Nat
  | [] => 0
  | item :: items => max (depth item) (itemDepth items)

/-- The depth of the deepest value in an object. -/
def memberDepth : List (String × Value) → Nat
  | [] => 0
  | (_, value) :: members => max (depth value) (memberDepth members)

end

end Value

/-! ### Texts -/

/-- The blanks of JSON. -/
def IsBlank (c : Char) : Prop := c ∈ [' ', '\n', '\t', '\r']

/-- A text that writes tokens one after another, with any blanks in front of each. -/
inductive Lays : List Token → List Char → Prop
  | nil : Lays [] []
  | cons {token : Token} {tokens : List Token} {blanks word rest : List Char} (hblanks : ∀ c ∈ blanks, IsBlank c)
      (hword : token.WrittenAs word) (hrest : Lays tokens rest) : Lays (token :: tokens) (blanks ++ word ++ rest)

/-- A text that writes a value, with any blanks around it. -/
def Value.WrittenAs (value : Value) (text : String) : Prop :=
  ∃ cs blanks, Lays value.tokens cs ∧ (∀ c ∈ blanks, IsBlank c) ∧ text.toList = cs ++ blanks

end SchemaSdl.Json
