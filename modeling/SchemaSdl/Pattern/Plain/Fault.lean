import SchemaSdl.Text.Pieces

/-! What can be wrong with a plain pattern, and the report that shows where. -/

namespace SchemaSdl.Pattern.Plain

/-- A place in a pattern, counted in characters from one. -/
structure Place where
  line : Nat := 1
  column : Nat := 1
deriving DecidableEq

/-- The place after a character. -/
def Place.after (place : Place) (c : Char) : Place :=
  if c = '\n' then ⟨place.line + 1, 1⟩ else ⟨place.line, place.column + 1⟩

/-- The part of a pattern between two places. -/
structure Span where
  start : Place
  stop : Place
deriving DecidableEq

/-- What is wrong. -/
inductive Cause where
  | classEscape
  | classRangeOrder
  | classRangeBound
  | classOpen
  | decimalAbsent
  | decimalTooLarge
  | hexAbsent
  | hexNoCharacter
  | hexDigit
  | escapeCut
  | escapeUnknown
  | flagNegationLast
  | flagTwice
  | flagNegationTwice
  | flagCut
  | flagUnknown
  | groupNameTwice
  | groupNameEmpty
  | groupNameCharacter
  | groupNameOpen
  | groupOpen
  | groupNotOpened
  | tooDeep (limit : Nat)
  | countOrder
  | countNumber
  | countOpen
  | repetitionOfNothing
  | boundaryOpen
  | boundaryUnknown
  | boundaryCut
  | propertyLetter
  | backReference
  | lookAround
  | propertyRefused
  | bytesInvalid
  | propertyUnknown
  | propertyValueUnknown

/-- The wording of a cause. -/
def Cause.message : Cause → String
  | .classEscape => "invalid escape sequence found in character class"
  | .classRangeOrder => "invalid character class range, the start must be <= the end"
  | .classRangeBound => "invalid range boundary, must be a literal"
  | .classOpen => "unclosed character class"
  | .decimalAbsent => "decimal literal empty"
  | .decimalTooLarge => "decimal literal invalid"
  | .hexAbsent => "hexadecimal literal empty"
  | .hexNoCharacter => "hexadecimal literal is not a Unicode scalar value"
  | .hexDigit => "invalid hexadecimal digit"
  | .escapeCut => "incomplete escape sequence, reached end of pattern prematurely"
  | .escapeUnknown => "unrecognized escape sequence"
  | .flagNegationLast => "dangling flag negation operator"
  | .flagTwice => "duplicate flag"
  | .flagNegationTwice => "flag negation operator repeated"
  | .flagCut => "expected flag but got end of regex"
  | .flagUnknown => "unrecognized flag"
  | .groupNameTwice => "duplicate capture group name"
  | .groupNameEmpty => "empty capture group name"
  | .groupNameCharacter => "invalid capture group character"
  | .groupNameOpen => "unclosed capture group name"
  | .groupOpen => "unclosed group"
  | .groupNotOpened => "unopened group"
  | .tooDeep limit => "exceed the maximum number of nested parentheses/brackets (" ++ toString limit ++ ")"
  | .countOrder => "invalid repetition count range, the start must be <= the end"
  | .countNumber => "repetition quantifier expects a valid decimal"
  | .countOpen => "unclosed counted repetition"
  | .repetitionOfNothing => "repetition operator missing expression"
  | .boundaryOpen => "special word boundary assertion is either unclosed or contains an invalid character"
  | .boundaryUnknown =>
    "unrecognized special word boundary assertion, valid choices are: start, end, start-half or end-half"
  | .boundaryCut =>
    "found either the beginning of a special word boundary or a bounded repetition on a \\b with an opening brace, "
      ++ "but no closing brace"
  | .propertyLetter => "invalid Unicode character class"
  | .backReference => "backreferences are not supported"
  | .lookAround => "look-around, including look-ahead and look-behind, is not supported"
  | .propertyRefused => "Unicode not allowed here"
  | .bytesInvalid => "pattern can match invalid UTF-8"
  | .propertyUnknown => "Unicode property not found"
  | .propertyValueUnknown => "Unicode property value not found"

/-- What is wrong, where, and where its first occurrence is if it is a repetition. -/
structure Fault where
  cause : Cause
  span : Span
  earlier : Option Span := none

namespace Fault

/-- A text brought to a width by blanks in front. -/
def padded (width : Nat) (text : String) : String := "".pushn ' ' (width - text.length) ++ text

/-- Whether a place comes before another. -/
def isBefore (a b : Place) : Bool := a.line < b.line || (a.line = b.line && a.column < b.column)

/-- Whether a span comes no later than another: by where they start, and then by where they stop. -/
def isNoLater (a b : Span) : Bool :=
  isBefore a.start b.start || (a.start = b.start && !isBefore b.stop a.stop)

/-- The spans of the fault in order. -/
def spans (fault : Fault) : List Span :=
  match fault.earlier with
  | some earlier => if isNoLater fault.span earlier then [fault.span, earlier] else [earlier, fault.span]
  | none => [fault.span]

/-- The marks under a line. -/
def marks (margin : Nat) (spans : List Span) : String :=
  let step := fun (marked : String × Nat) (span : Span) =>
    let gap := span.start.column - 1 - marked.2
    let width := max 1 (span.stop.column - span.start.column)
    (marked.1.pushn ' ' gap |>.pushn '^' width, marked.2 + gap + width)
  (spans.foldl step ("".pushn ' ' margin, 0)).1

/-- The report of a fault: the pattern with the place marked under its line, and what is wrong there. Patterns of
several lines have their lines numbered. -/
def report (pattern : String) (fault : Fault) : String :=
  let lines := Text.lines pattern
  let count := lines.length + if pattern.endsWith "\n" then 1 else 0
  let numberWidth := if count ≤ 1 then 0 else (toString count).length
  let margin := if numberWidth = 0 then 4 else numberWidth + 2
  let inOneLine := fault.spans.filter fun span => span.start.line = span.stop.line
  let acrossLines := fault.spans.filter fun span => span.start.line ≠ span.stop.line
  let shown := (lines.zipIdx 1).map fun (line, n) =>
    let head := if numberWidth = 0 then "    " else padded numberWidth (toString n) ++ ": "
    let here := inOneLine.filter (·.start.line = n)
    head ++ line ++ "\n" ++ if here.isEmpty then "" else marks margin here ++ "\n"
  let divider := "".pushn '~' 79 ++ "\n"
  let notes := acrossLines.map fun span =>
    "on line " ++ toString span.start.line ++ " (column " ++ toString span.start.column ++ ") through line "
      ++ toString span.stop.line ++ " (column " ++ toString (span.stop.column - 1) ++ ")"
  let body := String.join shown
  let framed :=
    if '\n' ∈ pattern.toList then
      divider ++ body ++ divider ++ (if notes.isEmpty then "" else "\n".intercalate notes ++ "\n")
    else body
  "regex parse error:\n" ++ framed ++ "error: " ++ fault.cause.message

end Fault
end SchemaSdl.Pattern.Plain
