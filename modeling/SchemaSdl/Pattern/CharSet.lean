import SchemaSdl.Text.Unicode.Fold

/-! Sets of characters as ranges of code points. -/

namespace SchemaSdl.Pattern

/-- A set of code points: ranges in ascending order that neither overlap nor touch. -/
structure CharSet where
  ranges : Array (Nat × Nat)

namespace CharSet

/-- Puts a range behind ranges that begin no later, joining it with the last one if they touch. -/
def pushRange (ranges : Array (Nat × Nat)) (range : Nat × Nat) : Array (Nat × Nat) :=
  match ranges.back? with
  | some (first, last) =>
    if range.1 ≤ last + 1 then ranges.pop.push (first, max last range.2) else ranges.push range
  | none => ranges.push range

/-- The set of the code points in some ranges. -/
def ofRanges (ranges : List (Nat × Nat)) : CharSet :=
  let sorted := (ranges.filter fun (first, last) => first ≤ last).mergeSort fun a b => decide (a.1 ≤ b.1)
  ⟨sorted.foldl pushRange #[]⟩

/-- The set of some code points. -/
def ofCodes (codes : List Nat) : CharSet := ofRanges (codes.map fun n => (n, n))

/-- The set without members. -/
def empty : CharSet := ⟨#[]⟩

/-- All code points. -/
def all : CharSet := ⟨#[(0, 0x10FFFF)]⟩

/-- The code points of ASCII. -/
def ascii : CharSet := ⟨#[(0, 0x7F)]⟩

/-- Whether a code point lies in one of the ranges between two places. -/
def search (ranges : Array (Nat × Nat)) (n low high : Nat) : Bool :=
  if low < high then
    let middle := (low + high) / 2
    match ranges[middle]? with
    | some (first, last) =>
      if n < first then search ranges n low middle
      else if last < n then search ranges n (middle + 1) high
      else true
    | none => false
  else false
termination_by high - low

/-- Whether a character is in the set. -/
def contains (set : CharSet) (c : Char) : Bool := search set.ranges c.toNat 0 set.ranges.size

/-- All that is in one of two sets. -/
def union (a b : CharSet) : CharSet := ofRanges (a.ranges.toList ++ b.ranges.toList)

/-- The gaps between ranges, from a code point on. -/
def gaps (next : Nat) : List (Nat × Nat) → List (Nat × Nat)
  | [] => if next ≤ 0x10FFFF then [(next, 0x10FFFF)] else []
  | (first, last) :: rest => if next < first then (next, first - 1) :: gaps (last + 1) rest else gaps (last + 1) rest

/-- All that is not in a set. -/
def complement (set : CharSet) : CharSet := ⟨(gaps 0 set.ranges.toList).toArray⟩

/-- All that is in both sets. -/
def inter (a b : CharSet) : CharSet := (a.complement.union b.complement).complement

/-- All that is in the first set only. -/
def diff (a b : CharSet) : CharSet := a.inter b.complement

/-- All that is in one set only. -/
def symmDiff (a b : CharSet) : CharSet := (a.diff b).union (b.diff a)

/-- A set with all characters that differ from its members in case only. -/
def folded (set : CharSet) : CharSet :=
  let hit := fun n => search set.ranges n 0 set.ranges.size
  set.union (ofCodes (Text.foldClasses.flatMap fun fold => if fold.any hit then fold else []))

/-- A set with all ASCII letters that differ from its members in case only. -/
def foldedAscii (set : CharSet) : CharSet :=
  let shifted := fun (low high : Nat) (move : Nat → Nat) =>
    set.ranges.toList.filterMap fun (first, last) =>
      if max first low ≤ min last high then some (move (max first low), move (min last high)) else none
  set.union (ofRanges (shifted 0x41 0x5A (· + 32) ++ shifted 0x61 0x7A (· - 32)))

/-- Whether all members are ASCII. -/
def isAscii (set : CharSet) : Bool := set.ranges.all fun (_, last) => last ≤ 0x7F

end CharSet
end SchemaSdl.Pattern
