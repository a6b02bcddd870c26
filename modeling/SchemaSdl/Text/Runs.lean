/-! Tables over code points, written as runs: a length in decimal and the label of that many code points. -/

namespace SchemaSdl.Text

/-- Where each run begins, in ascending order, with its label. -/
structure Runs where
  starts : Array (Nat × String)

namespace Runs

/-- What has been read of a written table. -/
structure Reading where
  starts : Array (Nat × String) := #[]
  next : Nat := 0
  length : Nat := 0
  label : List Char := []

/-- Ends the run that is being read. -/
def Reading.close (r : Reading) : Reading :=
  if r.label.isEmpty then r
  else ⟨r.starts.push (r.next, String.ofList r.label.reverse), r.next + r.length, 0, []⟩

/-- A digit after a label begins the next run. Blanks and line feeds mean nothing. -/
def Reading.step (r : Reading) (c : Char) : Reading :=
  if c = ' ' || c = '\n' then r
  else if c.isDigit then
    let r := r.close
    { r with length := r.length * 10 + (c.toNat - '0'.toNat) }
  else { r with label := c :: r.label }

/-- The table that a text writes. -/
def ofText (text : String) : Runs := ⟨(text.toList.foldl Reading.step {}).close.starts⟩

/-- The last run that begins at or before a code point, among those from one place up to another. -/
def find (runs : Runs) (n : Nat) (low high : Nat) (label : String) : String :=
  if low < high then
    let middle := (low + high) / 2
    match runs.starts[middle]? with
    | some (start, l) => if start ≤ n then find runs n (middle + 1) high l else find runs n low middle label
    | none => label
  else label
termination_by high - low

/-- The label of a character. -/
def label (runs : Runs) (c : Char) : String := runs.find c.toNat 0 runs.starts.size ""

/-- The runs with a given label, as first and last code point. -/
def ranges (runs : Runs) (wanted : String → Bool) : List (Nat × Nat) :=
  let starts := runs.starts.toList
  let ends := (starts.drop 1).map (·.1 - 1) ++ [0x10FFFF]
  (starts.zip ends).filterMap fun ((first, label), last) => if wanted label then some (first, last) else none

end Runs
end SchemaSdl.Text
