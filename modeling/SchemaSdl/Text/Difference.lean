import SchemaSdl.Text.Pieces

/-! Where two texts begin to differ, line by line. -/

namespace SchemaSdl.Text

/-- The first line, counted from one, that is not the same in two texts. A text may have come to its end there. -/
structure Difference where
  line : Nat
  expected : Option String
  actual : Option String
deriving DecidableEq

/-- The first difference between two lists of lines, the first of which has a number. -/
def differenceFrom (line : Nat) : (expected actual : List String) → Option Difference
  | [], [] => none
  | e :: expected, a :: actual =>
    if e = a then differenceFrom (line + 1) expected actual else some ⟨line, some e, some a⟩
  | expected, actual => some ⟨line, expected.head?, actual.head?⟩

/-- The first difference between the lines of two texts. -/
def firstDifference (expected actual : String) : Option Difference := differenceFrom 1 (lines expected) (lines actual)

/-- The difference as it is shown. Texts without one have the same lines. -/
def differenceText : Option Difference → String
  | none => "  outputs differ only in trailing whitespace"
  | some difference =>
    "  line " ++ toString difference.line ++ ":\n    expected: " ++ difference.expected.getD "<end>"
      ++ "\n    actual:   " ++ difference.actual.getD "<end>"

end SchemaSdl.Text
