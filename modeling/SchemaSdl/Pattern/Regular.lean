import SchemaSdl.Pattern.Property

/-! Regular expressions over characters, with conditions on the place between two of them. -/

namespace SchemaSdl.Pattern

/-- A condition on a place in a text. -/
inductive Look where
  | start
  | stop
  | lineStart
  | lineStop
  /-- Like the two before, a carriage return with a line feed ending a line too. -/
  | crLineStart
  | crLineStop
  | wordBoundary (ascii : Bool)
  | notWordBoundary (ascii : Bool)
  | wordStart (ascii : Bool)
  | wordStop (ascii : Bool)
  | wordStartHalf (ascii : Bool)
  | wordStopHalf (ascii : Bool)
deriving DecidableEq

namespace Look

/-- Whether a condition holds at a place in a text. -/
def holds (look : Look) (text : Array Char) (i : Nat) : Bool :=
  let before := if i = 0 then none else text[i - 1]?
  let after := text[i]?
  let isWord := fun (ascii : Bool) (c : Option Char) =>
    match c with
    | some c => (if ascii then Property.asciiWord else Property.word).contains c
    | none => false
  match look with
  | .start => before.isNone
  | .stop => after.isNone
  | .lineStart => before.isNone || before == some '\n'
  | .lineStop => after.isNone || after == some '\n'
  | .crLineStart => before.isNone || before == some '\n' || (before == some '\r' && after != some '\n')
  | .crLineStop => after.isNone || after == some '\r' || (after == some '\n' && before != some '\r')
  | .wordBoundary ascii => isWord ascii before != isWord ascii after
  | .notWordBoundary ascii => isWord ascii before == isWord ascii after
  | .wordStart ascii => !isWord ascii before && isWord ascii after
  | .wordStop ascii => isWord ascii before && !isWord ascii after
  | .wordStartHalf ascii => !isWord ascii before
  | .wordStopHalf ascii => !isWord ascii after

end Look

/-- A regular expression. Of several ways to match, those that come first are preferred. -/
inductive Regular where
  | empty
  | chars (set : CharSet)
  | look (look : Look)
  /-- At least so many times, and at most so many if there is a limit; as often as possible if greedy. -/
  | repeated (least : Nat) (most : Option Nat) (greedy : Bool) (inner : Regular)
  | concat (parts : List Regular)
  | alternation (choices : List Regular)

namespace Regular

/-- The fewest characters of a match. -/
def leastLength : Regular → Nat
  | .empty => 0
  | .chars _ => 1
  | .look _ => 0
  | .repeated least _ _ inner => least * inner.leastLength
  | .concat parts => (parts.map leastLength).foldl (· + ·) 0
  | .alternation choices => ((choices.map leastLength).min?).getD 0

/-- What a set of characters costs in an automaton over bytes. -/
def setWeight (set : CharSet) : Nat :=
  if set.isAscii then 1 + set.ranges.size / 4 else 4 + 2 * set.ranges.size

/-- About how many states an automaton over bytes needs for the expression. -/
def weight : Regular → Nat
  | .empty => 1
  | .chars set => setWeight set
  | .look _ => 1
  | .repeated least most _ inner => max 1 (most.getD (least + 1)) * (inner.weight + 1)
  | .concat parts => (parts.map weight).foldl (· + ·) 0
  | .alternation choices => (choices.map weight).foldl (· + ·) 1

/-- An expression with more states than this is refused. -/
def weightLimit : Nat := 10 * Nat.pow 2 20 / 32

end Regular
end SchemaSdl.Pattern
