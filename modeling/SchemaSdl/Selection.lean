import SchemaSdl.Pass
import SchemaSdl.Pattern.Extended

/-! Selection of definitions by patterns on their names. -/

namespace SchemaSdl

/-- Patterns for the names of definitions: one that must occur in a name and one that must not. -/
structure Selection where
  filter : Option String := none
  exclude : Option String := none

namespace Selection

/-- The test that a pattern makes. An empty pattern makes none. -/
def test (pattern : Option String) : Except Fault (Option (String → Except Fault Bool)) :=
  match pattern with
  | none => .ok none
  | some text =>
    if text = "" then .ok none
    else
      match Pattern.Extended.compile text with
      | .error fault => .error (.invalidFilter fault)
      | .ok pattern => .ok (some fun name => (pattern.occursIn name).mapError .invalidFilter)

/-- The tests that a selection makes. -/
def selector (selection : Selection) : Except Fault Selector := do
  let filter ← test selection.filter
  let exclude ← test selection.exclude
  return ⟨filter, exclude⟩

end Selection
end SchemaSdl
