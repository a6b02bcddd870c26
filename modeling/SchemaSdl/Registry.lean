import SchemaSdl.Sdl.Entry

/-! The types collected so far. Each is known by its joined name, which no two of them share. -/

namespace SchemaSdl

/-- Types in the order of their registration. -/
structure Registry where
  entries : List Entry := []
deriving DecidableEq

namespace Registry

/-- No types. -/
def empty : Registry := ⟨[]⟩

/-- The names of the types. -/
def keys (registry : Registry) : List String := registry.entries.map Entry.key

/-- The type known by a name. -/
def get? (registry : Registry) (key : String) : Option Entry := registry.entries.find? (·.key = key)

/-- How many types there are. -/
def size (registry : Registry) : Nat := registry.entries.length

/-- Adds a type at the end, or gives back the one that holds its name. -/
def register (registry : Registry) (entry : Entry) : Except Entry Registry :=
  match registry.get? entry.key with
  | some held => .error held
  | none => .ok ⟨registry.entries ++ [entry]⟩

end Registry
end SchemaSdl
