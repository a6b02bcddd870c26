import SchemaSdl.Pattern.Extended.Program

/-! Searches that can go back. -/

namespace SchemaSdl.Pattern.Extended

/-- A place in the program and in the text, with what has been saved until then. -/
structure Branch where
  instruction : Nat
  place : Nat
  slots : Array (Option Nat)
  /-- How many ways back there were where each open atomic group began. -/
  atomic : List Nat

/-- A search: where it is, and the ways back, latest first. -/
structure Machine where
  branch : Branch
  back : List Branch := []
  backCount : Nat := 0

/-- What an instruction leads to. -/
inductive Outcome where
  | goOn (machine : Machine)
  | fail (machine : Machine)
  | found
  | stop (fault : Fault)

namespace Machine

/-- So many ways back are kept at most. -/
def branchLimit : Nat := 1000000

/-- A search may go back so many times. -/
def retreatLimit : Nat := 1000000

/-- What a slot holds. -/
def slot (machine : Machine) (n : Nat) : Option Nat := (machine.branch.slots[n]?).join

/-- Puts a value into a slot. -/
def save (machine : Machine) (n : Nat) (value : Option Nat) : Machine :=
  { machine with branch := { machine.branch with slots := machine.branch.slots.setIfInBounds n value } }

/-- Goes to an instruction. -/
def goTo (machine : Machine) (instruction : Nat) : Machine :=
  { machine with branch := { machine.branch with instruction } }

/-- Goes to the next instruction. -/
def next (machine : Machine) : Machine := machine.goTo (machine.branch.instruction + 1)

/-- Goes to the next instruction at another place of the text. -/
def moveTo (machine : Machine) (place : Nat) : Machine :=
  { machine with branch := { machine.branch with instruction := machine.branch.instruction + 1, place } }

/-- Goes to one instruction and keeps another as a way back. -/
def split (machine : Machine) (first second : Nat) : Outcome :=
  if branchLimit ≤ machine.backCount then .stop .tooManyBranches
  else
    .goOn { machine.goTo first with
      back := { machine.branch with instruction := second } :: machine.back
      backCount := machine.backCount + 1 }

/-- Gives up ways back until so many are left. -/
def cut (machine : Machine) (count : Nat) : Machine :=
  if count < machine.backCount then
    { machine with back := machine.back.drop (machine.backCount - count), backCount := count }
  else machine

/-- Gives up ways back up to and including the one that leads to an instruction. -/
def dropThrough (target : Nat) : List Branch → Nat → List Branch × Nat
  | [], count => ([], count)
  | branch :: rest, count =>
    if branch.instruction = target then (rest, count - 1) else dropThrough target rest (count - 1)

/-- Whether some characters are at a place. -/
def isAt (text : Array Char) (place : Nat) : List Char → Bool
  | [] => true
  | c :: rest => text[place]? == some c && isAt text (place + 1) rest

/-- Goes on on a condition. -/
def when (machine : Machine) (condition : Bool) (after : Machine) : Outcome :=
  if condition then .goOn after else .fail machine

/-- Carries out an instruction. -/
def step (text : Array Char) (machine : Machine) : Instruction → Outcome
  | .done => .found
  | .any => machine.when (machine.branch.place < text.size) (machine.moveTo (machine.branch.place + 1))
  | .anyButLineFeed =>
    machine.when (text[machine.branch.place]?.any (· ≠ '\n')) (machine.moveTo (machine.branch.place + 1))
  | .literal chars =>
    machine.when (isAt text machine.branch.place chars) (machine.moveTo (machine.branch.place + chars.length))
  | .look look => machine.when (look.holds text machine.branch.place) machine.next
  | .split first second => machine.split first second
  | .jump target => .goOn (machine.goTo target)
  | .savePlace slot => .goOn (machine.save slot (some machine.branch.place)).next
  | .saveZero slot => .goOn (machine.save slot (some 0)).next
  | .restorePlace slot => .goOn (machine.moveTo ((machine.slot slot).getD machine.branch.place))
  | .countUp greedy least most behind slot =>
    let count := (machine.slot slot).getD 0
    if most = some count then .goOn (machine.goTo behind)
    else
      let counted := machine.save slot (some (count + 1))
      if count < least then .goOn counted.next
      else if greedy then counted.split (machine.branch.instruction + 1) behind
      else counted.split behind (machine.branch.instruction + 1)
  | .countUpMoving greedy least behind slot check =>
    let count := (machine.slot slot).getD 0
    if 0 < count && machine.slot check = some machine.branch.place then .fail machine
    else
      let counted := machine.save slot (some (count + 1))
      if count < least then .goOn counted.next
      else
        let checked := counted.save check (some machine.branch.place)
        if greedy then checked.split (machine.branch.instruction + 1) behind
        else checked.split behind (machine.branch.instruction + 1)
  | .goBack chars => machine.when (chars ≤ machine.branch.place) (machine.moveTo (machine.branch.place - chars))
  | .failAround =>
    let (back, backCount) := dropThrough (machine.branch.instruction + 1) machine.back machine.backCount
    .fail { machine with back, backCount }
  | .backReference slot =>
    match machine.slot slot, machine.slot (slot + 1) with
    | some first, some last =>
      let chars := (text.extract first last).toList
      machine.when (first ≤ last && isAt text machine.branch.place chars)
        (machine.moveTo (machine.branch.place + chars.length))
    | _, _ => .fail machine
  | .groupMatched slot => machine.when (machine.slot slot).isSome machine.next
  | .beginAtomic =>
    .goOn { machine.next with branch := { machine.next.branch with atomic := machine.backCount :: machine.branch.atomic } }
  | .endAtomic =>
    match machine.branch.atomic with
    | count :: outer =>
      .goOn ({ machine.next with branch := { machine.next.branch with atomic := outer } }.cut count)
    | [] => .goOn machine.next
  | .part part =>
    match part.matchEnd? text machine.branch.place with
    | some place => .goOn (machine.moveTo place)
    | none => .fail machine
  | .searchStart => machine.when (machine.branch.place = 0) machine.next

/-- Carries a search through. It is given up when it has gone back too often, or when the fuel is used up. -/
def run (instructions : Array Instruction) (text : Array Char) :
    (fuel : Nat) → (retreats : Nat) → Machine → Except Fault Bool
  | 0, _, _ => .error .tooManyRetreats
  | fuel + 1, retreats, machine =>
    match machine.step text (instructions.getD machine.branch.instruction .done) with
    | .found => .ok true
    | .stop fault => .error fault
    | .goOn machine => run instructions text fuel retreats machine
    | .fail machine =>
      match machine.back with
      | [] => .ok false
      | branch :: back =>
        if retreatLimit ≤ retreats then .error .tooManyRetreats
        else run instructions text fuel (retreats + 1) ⟨branch, back, machine.backCount - 1⟩

end Machine

/-- Whether a program finds a match in a text. The fuel is far beyond what the limit on going back allows. -/
def Program.isMatch (program : Program) (text : Array Char) : Except Fault Bool :=
  Machine.run program.instructions text (Nat.pow 10 15) 0 { branch := ⟨0, 0, .replicate program.slots none, []⟩ }

end SchemaSdl.Pattern.Extended
