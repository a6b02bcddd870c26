import SchemaSdl.Pattern.Regular

/-! Matching of regular expressions: all ways to match are followed side by side, in the order in which they are
preferred. -/

namespace SchemaSdl.Pattern

/-- A state of an automaton. -/
inductive Automaton.State where
  | chars (set : CharSet) (next : Nat)
  | look (look : Look) (next : Nat)
  | split (first second : Nat)
  | done

/-- States and the one to begin with. -/
structure Automaton where
  states : Array Automaton.State
  start : Nat

namespace Automaton

/-- Adds a state and tells its place. -/
def add (states : Array State) (state : State) : Nat × Array State := (states.size, states.push state)

/-- A choice between going on inside and leaving. -/
def choice (greedy : Bool) (inside out : Nat) : State := if greedy then .split inside out else .split out inside

/-- Adds states in front of a given one and tells where they begin. -/
abbrev Builder := (next : Nat) → Array State → Nat × Array State

namespace Builder

/-- So many times more, each time inside the one before. -/
def optionally (inner : Builder) (greedy : Bool) : (times : Nat) → Builder
  | 0 => fun next states => (next, states)
  | times + 1 => fun next states =>
    let (rest, states) := optionally inner greedy times next states
    let (inside, states) := inner rest states
    add states (choice greedy inside next)

/-- So many times. -/
def times (inner : Builder) : (n : Nat) → Builder
  | 0 => fun next states => (next, states)
  | n + 1 => fun next states =>
    let (after, states) := times inner n next states
    inner after states

/-- Once or more often. -/
def onceOrMore (inner : Builder) (greedy : Bool) : Builder := fun next states =>
  let loop := states.size
  let (inside, states) := inner loop (states.push .done)
  (inside, states.setIfInBounds loop (choice greedy inside next))

/-- Any number of times. An expression that can match nothing is entered once more often than it is repeated. -/
def anyTimes (inner : Builder) (greedy canBeEmpty : Bool) : Builder := fun next states =>
  let (inside, after) := inner.onceOrMore greedy next states
  if canBeEmpty then add after (choice greedy inside next) else (states.size, after)

end Builder

mutual

/-- Adds the states of an expression. -/
def build : Regular → Builder
  | .empty => fun next states => (next, states)
  | .chars set => fun next states => add states (.chars set next)
  | .look look => fun next states => add states (.look look next)
  | .repeated least most greedy inner => fun next states =>
    match most, least with
    | some most, _ =>
      let (after, states) := Builder.optionally (build inner) greedy (most - least) next states
      Builder.times (build inner) least after states
    | none, 0 => Builder.anyTimes (build inner) greedy (inner.leastLength = 0) next states
    | none, least + 1 =>
      let (after, states) := Builder.onceOrMore (build inner) greedy next states
      Builder.times (build inner) least after states
  | .concat parts => buildParts parts
  | .alternation choices => buildChoices choices

/-- Adds the states of expressions that follow each other. -/
def buildParts : List Regular → Builder
  | [] => fun next states => (next, states)
  | part :: rest => fun next states =>
    let (after, states) := buildParts rest next states
    build part after states

/-- Adds the states of expressions of which one is chosen. -/
def buildChoices : List Regular → Builder
  | [] => fun next states => add states (.chars .empty next)
  | [only] => build only
  | first :: rest => fun next states =>
    let (second, states) := buildChoices rest next states
    let (first, states) := build first next states
    add states (.split first second)

end

/-- The automaton of an expression. -/
def ofRegular (regular : Regular) : Automaton :=
  let (start, states) := build regular 0 #[.done]
  ⟨states, start⟩

/-- The states reached at a place, most preferred first. -/
structure Front where
  reached : Array Bool
  /-- States that take a character or are done. -/
  waiting : Array Nat := #[]

/-- Adds the states that can be reached from some others without taking a character. -/
def extend (automaton : Automaton) (text : Array Char) (i : Nat) (front : Front) : (fuel : Nat) → List Nat → Front
  | 0, _ => front
  | _, [] => front
  | fuel + 1, n :: rest =>
    if front.reached.getD n true then extend automaton text i front fuel rest
    else
      let front := { front with reached := front.reached.setIfInBounds n true }
      match automaton.states[n]? with
      | some (.split first second) => extend automaton text i front fuel (first :: second :: rest)
      | some (.look look next) =>
        extend automaton text i front fuel (if look.holds text i then next :: rest else rest)
      | some _ => extend automaton text i { front with waiting := front.waiting.push n } fuel rest
      | none => extend automaton text i front fuel rest

/-- The front of some states. Every state is passed once and brings at most two others along. -/
def front (automaton : Automaton) (text : Array Char) (i : Nat) (states : List Nat) : Front :=
  extend automaton text i ⟨.replicate automaton.states.size false, #[]⟩
    (2 * automaton.states.size + states.length + 1) states

/-- The states after a character, as far as they are preferred to being done, and whether one is done. -/
def advance (automaton : Automaton) (c : Option Char) : List Nat → List Nat × Bool
  | [] => ([], false)
  | n :: rest =>
    match automaton.states[n]? with
    | some .done => ([], true)
    | some (.chars set next) =>
      let (after, done) := advance automaton c rest
      (if c.any set.contains then next :: after else after, done)
    | _ => advance automaton c rest

/-- Follows the states from a place on; the place of the last match so far is kept. -/
def run (automaton : Automaton) (text : Array Char) (i : Nat) (states : List Nat) (found : Option Nat) : Option Nat :=
  let (after, done) := automaton.advance text[i]? (automaton.front text i states).waiting.toList
  let found := if done then some i else found
  if after.isEmpty then found
  else if i < text.size then run automaton text (i + 1) after found
  else found
termination_by text.size - i

/-- Where the preferred match that begins at a place ends. -/
def matchEnd? (automaton : Automaton) (text : Array Char) (i : Nat) : Option Nat :=
  automaton.run text i [automaton.start] none

/-- Whether there is a match from a place on, given the states that have been reached there. -/
def found (automaton : Automaton) (text : Array Char) (i : Nat) (states : List Nat) : Bool :=
  let (after, done) := automaton.advance text[i]? (automaton.front text i (states ++ [automaton.start])).waiting.toList
  if done then true
  else if i < text.size then found automaton text (i + 1) after
  else false
termination_by text.size - i

/-- Whether there is a match anywhere. -/
def isMatch (automaton : Automaton) (text : Array Char) : Bool := automaton.found text 0 []

end Automaton
end SchemaSdl.Pattern
