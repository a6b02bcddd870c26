/-! What a field says about its type: a built-in scalar, a type by name, or a list of either. -/

namespace SchemaSdl

/-- The built-in leaf types. -/
inductive Scalar where
  | string
  | int
  | float
  | boolean
deriving DecidableEq, Inhabited

namespace Scalar

/-- The leaf type that a schema's type keyword stands for. -/
def ofKeyword? (keyword : String) : Option Scalar :=
  if keyword = "string" then some .string
  else if keyword = "integer" then some .int
  else if keyword = "number" then some .float
  else if keyword = "boolean" then some .boolean
  else none

/-- The name that the schema language gives to a leaf type. -/
def name : Scalar → String
  | .string => "String"
  | .int => "Int"
  | .float => "Float"
  | .boolean => "Boolean"

end Scalar

/-- The type of a field. -/
inductive Label where
  | scalar (scalar : Scalar)
  | named (name : String)
  | list (item : Label)
deriving DecidableEq, Inhabited

namespace Label

/-- A list is written in square brackets. -/
def text : Label → String
  | .scalar s => s.name
  | .named name => name
  | .list item => "[" ++ item.text ++ "]"

end Label

/-- A description that is absent or empty is not written. -/
def written? (description : Option String) : Option String := description.filter (· ≠ "")

theorem written?_of_mem {description : Option String} {written : String} (h : written ∈ description)
    (hne : written ≠ "") : written? description = some written := by
  rw [Option.mem_def.mp h, written?, Option.filter_some, if_pos (by simpa using hne)]

theorem written?_eq_none_iff {description : Option String} :
    written? description = none ↔ ∀ written ∈ description, written = "" := by
  simp [written?, Option.filter_eq_none_iff]

/-- A field of a composite type: its type, what is said about it, and whether it is never null. -/
structure Field where
  label : Label
  description : Option String
  required : Bool
deriving DecidableEq

/-- The only field of a composite type that has no property. -/
def Field.placeholder : Field := ⟨.scalar .string, none, false⟩

end SchemaSdl
