import SchemaSdl.Pattern.Plain.Fault

/-! The syntax trees of plain patterns. -/

namespace SchemaSdl.Pattern.Plain

/-- The switches of a pattern. -/
inductive Flag where
  | ignoreCase
  | multiLine
  | dotMatchesAll
  | swapGreed
  | unicode
  | carriageReturns
  | ignoreBlanks
deriving DecidableEq

/-- Switches that a group turns on or off, in order. -/
abbrev FlagItems := List (Flag × Bool)

/-- The state that some items give a switch; the last one counts. -/
def FlagItems.state? (items : FlagItems) (flag : Flag) : Option Bool :=
  (items.reverse.find? (·.1 = flag)).map (·.2)

/-- The classes with a letter of their own. -/
inductive LetterClass where
  | digit
  | space
  | word
deriving DecidableEq

/-- How a property is named. -/
inductive PropertyName where
  | alone (name : String)
  | valued (name value : String) (equal : Bool)

/-- Conditions on a place, before switches are looked at. -/
inductive Assertion where
  | lineStart
  | lineStop
  | textStart
  | textStop
  | wordBoundary
  | notWordBoundary
  | wordStart
  | wordStop
  | wordStartHalf
  | wordStopHalf
deriving DecidableEq

/-- The operations on sets of characters. -/
inductive SetOperation where
  | intersection
  | difference
  | symmetricDifference
deriving DecidableEq

/-- What stands inside a bracket. -/
inductive SetTree where
  | empty
  | range (first last : Char)
  | ascii (negated : Bool) (name : String)
  | letter (span : Span) (negated : Bool) (letter : LetterClass)
  | property (span : Span) (negated : Bool) (name : PropertyName)
  | bracket (span : Span) (negated : Bool) (inner : SetTree)
  | union (span : Span) (items : List SetTree)
  | operation (span : Span) (operation : SetOperation) (left right : SetTree)

/-- A pattern. -/
inductive Tree where
  | empty (span : Span)
  | flags (span : Span) (items : FlagItems)
  /-- A character, which may be written as a byte. -/
  | literal (span : Span) (char : Char) (byte : Bool)
  | dot (span : Span)
  | assertion (span : Span) (assertion : Assertion)
  | letter (span : Span) (negated : Bool) (letter : LetterClass)
  | property (span : Span) (negated : Bool) (name : PropertyName)
  | bracket (span : Span) (negated : Bool) (inner : SetTree)
  | repetition (span : Span) (least : Nat) (most : Option Nat) (greedy : Bool) (inner : Tree)
  | group (span : Span) (items : FlagItems) (inner : Tree)
  | alternation (span : Span) (choices : List Tree)
  | concat (span : Span) (parts : List Tree)

namespace Tree

/-- The part of the pattern that a tree was read from. -/
def span : Tree → Span
  | .empty span | .flags span _ | .literal span _ _ | .dot span | .assertion span _ | .letter span _ _
  | .property span _ _ | .bracket span _ _ | .repetition span .. | .group span _ _ | .alternation span _
  | .concat span _ => span

/-- Trees in a row: one alone stands for itself. -/
def ofParts (span : Span) : List Tree → Tree
  | [] => .empty span
  | [part] => part
  | parts => .concat span parts

end Tree

/-! ### Nesting -/

/-- How deep trees may be nested. -/
def depthLimit : Nat := 250

/-- Goes one level down, or reports the tree there as too deep. -/
def deeper (room : Nat) (span : Span) : Except Fault Nat :=
  match room with
  | 0 => .error ⟨.tooDeep depthLimit, span, none⟩
  | room + 1 => .ok room

mutual

/-- Checks the nesting inside a bracket. -/
def SetTree.checkDepth (room : Nat) : SetTree → Except Fault Unit
  | .bracket span _ inner => do inner.checkDepth (← deeper room span)
  | .union span items => do SetTree.checkDepths (← deeper room span) items
  | .operation span _ left right => do
    let room ← deeper room span
    left.checkDepth room
    right.checkDepth room
  | _ => .ok ()

/-- Checks the nesting inside each of some items. -/
def SetTree.checkDepths (room : Nat) : List SetTree → Except Fault Unit
  | [] => .ok ()
  | item :: rest => do
    item.checkDepth room
    SetTree.checkDepths room rest

end

mutual

/-- Checks the nesting of a pattern. -/
def Tree.checkDepth (room : Nat) : Tree → Except Fault Unit
  | .bracket span _ inner => do inner.checkDepth (← deeper room span)
  | .repetition span _ _ _ inner => do inner.checkDepth (← deeper room span)
  | .group span _ inner => do inner.checkDepth (← deeper room span)
  | .alternation span choices => do Tree.checkDepths (← deeper room span) choices
  | .concat span parts => do Tree.checkDepths (← deeper room span) parts
  | _ => .ok ()

/-- Checks the nesting of each of some patterns. -/
def Tree.checkDepths (room : Nat) : List Tree → Except Fault Unit
  | [] => .ok ()
  | tree :: rest => do
    tree.checkDepth room
    Tree.checkDepths room rest

end
end SchemaSdl.Pattern.Plain
