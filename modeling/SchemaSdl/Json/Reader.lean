import SchemaSdl.Json.Fault

/-! Readers of JSON text. A reader takes bytes from the front of its input and never gives back more than it
was given, which is what its loops end on. -/

namespace SchemaSdl.Json

/-- Where reading stopped: the steps to the value, what is wrong, and how many bytes were unread then. -/
structure Failure where
  path : List Step
  cause : Cause
  unread : Nat

/-- A value read and the bytes after it. -/
structure Taken (input : List UInt8) (α : Type) where
  value : α
  rest : List UInt8
  length_le : rest.length ≤ input.length

/-- What is left behind one reading is no more than there was before the reading ahead of it. -/
theorem Taken.fits {origin input : List UInt8} {α : Type} (taken : Taken input α)
    (le : input.length ≤ origin.length) : taken.rest.length ≤ origin.length :=
  Nat.le_trans taken.length_le le

/-- What is left behind one byte is less than there was. -/
theorem length_of_dropWhile_eq_cons {test : UInt8 → Bool} {input rest : List UInt8} {b : UInt8}
    (h : input.dropWhile test = b :: rest) : rest.length < input.length := by
  have shorter := (List.dropWhile_suffix test (l := input)).length_le
  rw [h] at shorter
  exact shorter

theorem fits_of_dropWhile_eq_cons {test : UInt8 → Bool} {origin input rest : List UInt8} {b : UInt8}
    (h : input.dropWhile test = b :: rest) (le : input.length ≤ origin.length) : rest.length ≤ origin.length :=
  Nat.le_trans (Nat.le_of_lt (length_of_dropWhile_eq_cons h)) le

/-- A reader of values. -/
def Reader (α : Type) := (input : List UInt8) → Except Failure (Taken input α)

namespace Reader
variable {α β σ : Type}

/-- Reads nothing. -/
def give (value : α) : Reader α := fun input => .ok ⟨value, input, Nat.le_refl _⟩

/-- Reads one thing and then another that depends on it. -/
def andThen (first : Reader α) (next : α → Reader β) : Reader β := fun input => do
  let taken ← first input
  let last ← next taken.value taken.rest
  return ⟨last.value, last.rest, Nat.le_trans last.length_le taken.length_le⟩

instance : Monad Reader where
  pure := give
  bind := andThen

/-- Fails at the place reached. -/
def fail (cause : Cause) : Reader α := fun input => .error ⟨[], cause, input.length⟩

/-- Fails at the place reached before so many bytes were taken. -/
def failBefore (count : Nat) (cause : Cause) : Reader α := fun input => .error ⟨[], cause, input.length + count⟩

/-- Fails at the place after the next byte. -/
def failAtNext (cause : Cause) : Reader α := fun input => .error ⟨[], cause, input.length - 1⟩

/-- Reads on from a place as from the beginning of what is left there. -/
def afresh (read : (input : List UInt8) → input.length ≤ input.length → Except Failure (Taken input α)) : Reader α :=
  fun input => read input (Nat.le_refl _)

/-- What lies inside a value is found one step further down. -/
def within (step : Step) (inner : Reader α) : Reader α := fun input =>
  match inner input with
  | .ok taken => .ok taken
  | .error failure => .error { failure with path := step :: failure.path }

/-- The byte ahead, if any. -/
def peek : Reader (Option UInt8) := fun input => .ok ⟨input.head?, input, Nat.le_refl _⟩

/-- Reads a byte, if there is one. -/
def next : Reader (Option UInt8) := fun input => .ok ⟨input.head?, input.tail, by simp⟩

/-- Passes over a byte. -/
def skipByte : Reader Unit := fun input => .ok ⟨(), input.tail, by simp⟩

/-- The bytes for which a test holds, up to the first for which it does not. -/
def takeWhile (test : UInt8 → Bool) : Reader (List UInt8) := fun input =>
  .ok ⟨input.takeWhile test, input.dropWhile test, (List.dropWhile_suffix test).length_le⟩

/-- Passes over the bytes for which a test holds, up to the first for which it does not. -/
def skipWhile (test : UInt8 → Bool) : Reader Unit := fun input =>
  .ok ⟨(), input.dropWhile test, (List.dropWhile_suffix test).length_le⟩

/-- The blanks of a text are space, line feed, tab and carriage return. -/
def isBlank (b : UInt8) : Bool := b == 0x20 || b == 0x0A || b == 0x09 || b == 0x0D

/-- Passes over blanks and looks at the byte after them. -/
def peekToken : Reader (Option UInt8) := do
  skipWhile isBlank
  peek

/-- Reads the rest of a word that has been begun. -/
def wordRest : List UInt8 → Reader Unit
  | [] => pure ()
  | expected :: rest => do
    match ← next with
    | none => fail .endInValue
    | some b => if b = expected then wordRest rest else fail .wordBroken

end Reader

/-- The place in a text after which some bytes are unread. -/
def Position.before (text : List UInt8) (unread : Nat) : Position := .after (text.take (text.length - unread))

/-- Reads a value from the front of a text. What follows the value is not looked at. -/
def Reader.run (reader : Reader α) (text : List UInt8) : Except Fault α :=
  match reader text with
  | .ok taken => .ok taken.value
  | .error failure => .error ⟨failure.path, failure.cause, .before text failure.unread⟩

end SchemaSdl.Json
