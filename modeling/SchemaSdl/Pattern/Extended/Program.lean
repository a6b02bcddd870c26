import SchemaSdl.Pattern.Automaton
import SchemaSdl.Pattern.Extended.Expr
import SchemaSdl.Pattern.Plain.Grammar
import SchemaSdl.Pattern.Plain.Meaning

/-! Extended patterns as programs. Parts that need no going back are left to automata. -/

namespace SchemaSdl.Pattern.Extended

/-! ### Parts that are plain patterns -/

/-- A span for trees that no text was read for. -/
def nowhere : Plain.Span := ⟨{}, {}⟩

/-- A tree under switches of its own. -/
def switched (items : Plain.FlagItems) (tree : Plain.Tree) : Plain.Tree := .group nowhere items tree

/-- A tree that is grouped on a condition. -/
def groupedIf (condition : Bool) (tree : Plain.Tree) : Plain.Tree := if condition then switched [] tree else tree

/-- A condition on a place as plain patterns write it. -/
def assertionTree (look : Look) : Plain.Tree :=
  match look with
  | .start => .assertion nowhere .lineStart
  | .stop => .assertion nowhere .lineStop
  | .lineStart => switched [(.multiLine, true)] (.assertion nowhere .lineStart)
  | .lineStop => switched [(.multiLine, true)] (.assertion nowhere .lineStop)
  | .crLineStart => switched [(.multiLine, true), (.carriageReturns, true)] (.assertion nowhere .lineStart)
  | .crLineStop => switched [(.multiLine, true), (.carriageReturns, true)] (.assertion nowhere .lineStop)
  | .wordBoundary _ => .assertion nowhere .wordBoundary
  | .notWordBoundary _ => .assertion nowhere .notWordBoundary
  | .wordStart _ => .assertion nowhere .wordStart
  | .wordStop _ => .assertion nowhere .wordStop
  | .wordStartHalf _ => .assertion nowhere .wordStartHalf
  | .wordStopHalf _ => .assertion nowhere .wordStopHalf

namespace Expr

mutual

/-- A pattern that needs no going back as a plain pattern, inside a context that binds so tightly. -/
def plain (binding : Nat) : Expr → Except Fault Plain.Tree
  | .empty => return .empty nowhere
  | .any lineFeed => return if lineFeed then switched [(.dotMatchesAll, true)] (.dot nowhere) else .dot nowhere
  | .look condition => return assertionTree condition
  | .literal c ignoreCase =>
    let tree := Plain.Tree.literal nowhere c false
    return if ignoreCase then switched [(.ignoreCase, true)] tree else tree
  | .oneOf text ignoreCase =>
    match Plain.Tree.ofText text with
    | .ok tree => return if ignoreCase then switched [(.ignoreCase, true)] tree else tree
    | .error _ => throw .partRefused
  | .concat parts => do return groupedIf (1 < binding) (.concat nowhere (← plains 2 parts))
  | .alternation choices => do return groupedIf (0 < binding) (.alternation nowhere (← plains 1 choices))
  | .group _ inner => do return switched [] (← inner.plain 0)
  | .repeated least most greedy inner => do
    let tree ← inner.plain 3
    if Nat.pow 2 32 ≤ least || most.any fun most => Nat.pow 2 32 ≤ most || most < least then throw .partRefused
    else return groupedIf (2 < binding) (.repetition nowhere least most greedy tree)
  | _ => throw .partRefused

/-- Patterns that need no going back as plain patterns. -/
def plains (binding : Nat) : List Expr → Except Fault (List Plain.Tree)
  | [] => return []
  | part :: rest => do return (← part.plain binding) :: (← plains binding rest)

end

end Expr

/-- The regular expression of a plain pattern. -/
def regularOf (tree : Plain.Tree) : Except Fault Regular := do
  let (regular, _) ← (do tree.checkDepth Plain.depthLimit; tree.meaning {}).mapError fun _ => Fault.partRefused
  if Regular.weightLimit < regular.weight then throw .partTooLarge else return regular

/-! ### Programs -/

/-- What an automaton looks for from a place on. -/
inductive Part where
  | oneOf (set : CharSet)
  | automaton (automaton : Automaton)

namespace Part

/-- The part that a regular expression describes. -/
def ofRegular : Regular → Part
  | .chars set => .oneOf set
  | regular => .automaton (.ofRegular regular)

/-- Where the preferred match of a part ends. -/
def matchEnd? (part : Part) (text : Array Char) (i : Nat) : Option Nat :=
  match part with
  | .oneOf set => if text[i]?.any set.contains then some (i + 1) else none
  | .automaton states => states.matchEnd? text i

end Part

/-- A step of a search. Slots hold places and counts. -/
inductive Instruction where
  | done
  | any
  | anyButLineFeed
  | literal (chars : List Char)
  | look (look : Look)
  /-- Goes on at the first place; the second is for going back. -/
  | split (first second : Nat)
  | jump (target : Nat)
  | savePlace (slot : Nat)
  | saveZero (slot : Nat)
  | restorePlace (slot : Nat)
  /-- Counts a repetition, and goes to the place behind it when the count is full. -/
  | countUp (greedy : Bool) (least : Nat) (most : Option Nat) (behind slot : Nat)
  /-- Counts a repetition that must not match nothing twice in a row. -/
  | countUpMoving (greedy : Bool) (least : Nat) (behind slot check : Nat)
  | goBack (chars : Nat)
  | failAround
  | backReference (slot : Nat)
  | groupMatched (slot : Nat)
  | beginAtomic
  | endAtomic
  | part (part : Part)
  | searchStart

/-- A program under construction. -/
structure Draft where
  instructions : Array Instruction := #[]
  slots : Nat

/-- A step of construction. -/
abbrev Build := StateT Draft (Except Fault)

namespace Build

/-- Where the next instruction comes. -/
def here : Build Nat := return (← get).instructions.size

/-- Adds an instruction. -/
def add (instruction : Instruction) : Build Unit :=
  modify fun draft => { draft with instructions := draft.instructions.push instruction }

/-- Replaces an instruction. -/
def put (place : Nat) (instruction : Instruction) : Build Unit :=
  modify fun draft => { draft with instructions := draft.instructions.setIfInBounds place instruction }

/-- A slot of its own. -/
def newSlot : Build Nat := do
  let draft ← get
  set { draft with slots := draft.slots + 1 }
  return draft.slots

/-- Adds patterns in a row that need no going back. -/
def plainParts (parts : List Expr) : Build Unit := do
  if parts.isEmpty then return ()
  else
    match Expr.literals? parts with
    | some chars => add (.literal chars)
    | none =>
      let tree ← Expr.plains (if parts.length = 1 then 1 else 2) parts
      let regular ← regularOf (.ofParts nowhere tree)
      add (.part (.ofRegular regular))

/-- How many patterns at the front of a row have a fixed size and need no going back. -/
def frontCount (referenced : List Nat) (parts : List Expr) : Nat :=
  (parts.takeWhile fun part => part.isFixedSize && !part.isHard referenced).length

/-- How many patterns at the end of a row need no going back. -/
def backCount (referenced : List Nat) (hard : Bool) (parts : List Expr) : Nat :=
  (parts.reverse.takeWhile fun part => (!hard || part.isFixedSize) && !part.isHard referenced).length

/-- Adds a repetition around what a step adds. -/
def repetition (least : Nat) (most : Option Nat) (greedy canBeEmpty : Bool) (inner : Build Unit) : Build Unit := do
  if least = 0 && most = some 1 then
    let start ← here
    add (.split 0 0)
    inner
    let behind ← here
    put start (if greedy then .split (start + 1) behind else .split behind (start + 1))
  else if most.isNone && canBeEmpty then
    let slot ← newSlot
    let check ← newSlot
    add (.saveZero slot)
    let start ← here
    add (.countUpMoving greedy least 0 slot check)
    inner
    add (.jump start)
    put start (.countUpMoving greedy least (← here) slot check)
  else if least = 0 && most.isNone then
    let start ← here
    add (.split 0 0)
    inner
    add (.jump start)
    let behind ← here
    put start (if greedy then .split (start + 1) behind else .split behind (start + 1))
  else if least = 1 && most.isNone then
    let start ← here
    inner
    let behind := (← here) + 1
    add (if greedy then .split start behind else .split behind start)
  else
    let slot ← newSlot
    add (.saveZero slot)
    let start ← here
    add (.countUp greedy least most 0 slot)
    inner
    add (.jump start)
    put start (.countUp greedy least most (← here) slot)

/-- Adds what a look-around looks for. A look-behind goes back first, by a fixed number of characters. -/
def aroundInner (behind : Bool) (inner : Expr) (body : Build Unit) : Build Unit := do
  if behind then
    if !inner.isFixedSize then throw .lookBehindLength
    else add (.goBack inner.leastSize)
  body

/-- Adds a look-around. The place is kept where it must hold; where it must not, its match fails. -/
def around (kind : LookAround) (inner : Expr) (body : Build Unit) : Build Unit := do
  if kind.negated then
    let start ← here
    add (.split 0 0)
    aroundInner kind.behind inner body
    add .failAround
    put start (.split (start + 1) (← here))
  else
    let slot ← newSlot
    add (.savePlace slot)
    aroundInner kind.behind inner body
    add (.restorePlace slot)

end Build

open Build in
mutual

/-- Adds the instructions of a pattern. Where the search may come back behind it, it is hard itself. -/
def Expr.build (referenced : List Nat) (hard : Bool) (expr : Expr) : Build Unit := do
  if !hard && !expr.isHard referenced then plainParts [expr]
  else
    match expr with
    | .empty => return ()
    | .any lineFeed => add (if lineFeed then .any else .anyButLineFeed)
    | .look condition => add (.look condition)
    | .literal c false => add (.literal [c])
    | .literal c true => plainParts [.literal c true]
    | .oneOf text ignoreCase => plainParts [.oneOf text ignoreCase]
    | .concat parts =>
      let front := frontCount referenced parts
      let back := backCount referenced hard (parts.drop front)
      plainParts (parts.take front)
      buildParts referenced front (parts.length - front - back) parts
      plainParts (parts.drop (parts.length - back))
    | .alternation choices => buildChoices referenced hard choices
    | .group number inner =>
      add (.savePlace (2 * number))
      inner.build referenced hard
      add (.savePlace (2 * number + 1))
    | .around kind inner =>
      let whole := around kind inner (inner.build referenced false)
      match inner with
      | .alternation choices =>
        if !kind.behind || Expr.areFixedSize choices && Expr.areOfSize (Expr.leastOf choices) choices then whole
        else if kind.negated then buildNoneBehind referenced kind choices
        else buildOneBehind referenced kind choices
      | _ => whole
    | .repeated least most greedy inner =>
      let single := least = 0 && most = some 1
      repetition least most greedy (inner.leastSize = 0)
        (inner.build referenced (hard || (!single && inner.isHard referenced)))
    | .backReference number => add (.backReference (2 * number))
    | .atomic inner =>
      add .beginAtomic
      inner.build referenced false
      add .endAtomic
    | .keepOut => add (.savePlace 0)
    | .searchStart => add .searchStart
    | .groupMatched number => add (.groupMatched (2 * number))
    | .conditional condition yes no =>
      add .beginAtomic
      let start ← here
      add (.split 0 0)
      condition.build referenced hard
      add .endAtomic
      yes.build referenced hard
      let leave ← here
      add (.jump 0)
      put start (.split (start + 1) (← here))
      no.build referenced hard
      put leave (.jump (← here))
termination_by sizeOf expr

/-- Adds so many patterns of a row after passing over so many others. -/
def buildParts (referenced : List Nat) (passed count : Nat) (parts : List Expr) : Build Unit :=
  match parts with
  | [] => return ()
  | part :: rest =>
    if 0 < passed then buildParts referenced (passed - 1) count rest
    else if 0 < count then do
      part.build referenced true
      buildParts referenced 0 (count - 1) rest
    else return ()
termination_by sizeOf parts

/-- Adds patterns of which one is chosen. -/
def buildChoices (referenced : List Nat) (hard : Bool) (choices : List Expr) : Build Unit :=
  match choices with
  | [] => return ()
  | [choice] => choice.build referenced hard
  | choice :: rest => do
    let start ← here
    add (.split 0 0)
    choice.build referenced hard
    let leave ← here
    add (.jump 0)
    put start (.split (start + 1) (← here))
    buildChoices referenced hard rest
    put leave (.jump (← here))
termination_by sizeOf choices

/-- Adds look-behinds of which one must hold. -/
def buildOneBehind (referenced : List Nat) (kind : LookAround) (choices : List Expr) : Build Unit :=
  match choices with
  | [] => return ()
  | [choice] => around kind choice (choice.build referenced false)
  | choice :: rest => do
    let start ← here
    add (.split 0 0)
    around kind choice (choice.build referenced false)
    let leave ← here
    add (.jump 0)
    put start (.split (start + 1) (← here))
    buildOneBehind referenced kind rest
    put leave (.jump (← here))
termination_by sizeOf choices

/-- Adds look-behinds of which none may hold. -/
def buildNoneBehind (referenced : List Nat) (kind : LookAround) (choices : List Expr) : Build Unit :=
  match choices with
  | [] => return ()
  | choice :: rest => do
    around kind choice (choice.build referenced false)
    buildNoneBehind referenced kind rest
termination_by sizeOf choices

end

/-- Instructions and the number of their slots. -/
structure Program where
  instructions : Array Instruction
  slots : Nat

/-- The program that looks for a pattern from any place on, the first places first. -/
def Program.ofExpr (referenced : List Nat) (groups : Nat) (expr : Expr) : Except Fault Program := do
  let build : Build Unit := do
    Build.repetition 0 none false false (Build.add .any)
    (Expr.group 0 expr).build referenced true
    Build.add .done
  let (_, draft) ← build.run { slots := 2 * groups }
  return ⟨draft.instructions, draft.slots⟩

end SchemaSdl.Pattern.Extended
