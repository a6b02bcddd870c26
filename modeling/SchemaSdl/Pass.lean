import SchemaSdl.Conversion
import SchemaSdl.Sdl.Rendering

/-! One pass over a document: select definitions, convert them into a fresh registry, write its types. -/

namespace SchemaSdl

/-- Tests on the names of definitions: one that a name must pass and one that it must not. A test may fail. -/
structure Selector where
  filter : Option (String → Except Fault Bool) := none
  exclude : Option (String → Except Fault Bool) := none

namespace Selector

/-- Whether a name is selected. The second test is made only of names that pass the first. -/
def selects (selector : Selector) (name : String) : Except Fault Bool := do
  let passes ← match selector.filter with
    | some test => test name
    | none => pure true
  if passes then
    match selector.exclude with
    | some test => return !(← test name)
    | none => return true
  else return false

end Selector

/-- A document ready to be converted, and the text that comes after its types. -/
structure Pass where
  document : Document
  root : String
  template : Option String
  root_ne : root ≠ ""

namespace Pass

/-- A pass needs a document and a root name that is not empty. -/
def ofOptions (document : Option Document) (root template : Option String) : Except Fault Pass :=
  match document, root with
  | some document, some root => if h : root ≠ "" then .ok ⟨document, root, template, h⟩ else .error .missingOptions
  | _, _ => .error .missingOptions

/-- The conversion that a pass makes. -/
def converter (pass : Pass) : Converter := ⟨pass.document, pass.root⟩

/-- Converts the selected ones of some definitions and tells how many they are. -/
def convertSelected (converter : Converter) (selector : Selector) : Members (Option Node) → Conversion Nat
  | [] => return 0
  | (name, node) :: rest => do
    match selector.selects name with
    | .error fault => throw fault
    | .ok false => convertSelected converter selector rest
    | .ok true =>
      let _ ← converter.convert name node none []
      return (← convertSelected converter selector rest) + 1

/-- Converts the selected definitions of the document. -/
def conversion (pass : Pass) (selector : Selector) : Conversion Unit := do
  let selected ← convertSelected pass.converter selector pass.document.definitions.members
  let walk ← getThe Walk
  Conversion.note (.converted selected walk.registry.size)

/-- The outcome of converting the selected definitions into a fresh registry, and the notices given. -/
def run (pass : Pass) (selector : Selector) : Except Fault Registry × Array Notice :=
  match (pass.conversion selector).run.run {} with
  | (.ok (), walk) => (.ok walk.registry, walk.notices)
  | (.error fault, walk) => (.error fault, walk.notices)

/-- The types of the selected definitions. -/
def registry (pass : Pass) (selector : Selector) : Except Fault Registry := (pass.run selector).1

/-- The text of a registry under the keys of its types. -/
def blocks (registry : Registry) : List String := registry.entries.map fun entry => entry.text entry.key

/-- The text of a registry followed by the template, if any. -/
def text (pass : Pass) (registry : Registry) : String :=
  match pass.template with
  | some template => joinBlocks (blocks registry) ++ "\n" ++ template
  | none => joinBlocks (blocks registry)

/-- The text of the selected definitions. -/
def render (pass : Pass) (selector : Selector) : Except Fault String := pass.text <$> pass.registry selector

end Pass
end SchemaSdl
