import SchemaSdl.Members
import SchemaSdl.Sdl.Label

/-! The types of an output schema and the nesting paths that they come from. -/

namespace SchemaSdl

/-- Where a type was found: a definition and the property names leading down from it. -/
structure TypePath where
  root : String
  below : List String := []
deriving DecidableEq

namespace TypePath

/-- All names of the path, from the definition down. -/
def segments (path : TypePath) : List String := path.root :: path.below

/-- The path one name further down. -/
def child (path : TypePath) (name : String) : TypePath := { path with below := path.below ++ [name] }

/-- A name under a parent path, or a definition when there is none. -/
def nested (parent : Option TypePath) (name : String) : TypePath :=
  match parent with
  | some path => path.child name
  | none => ⟨name, []⟩

/-- The last name of the path. -/
def lastName (path : TypePath) : String := path.segments.getLast (List.cons_ne_nil _ _)

/-- The name of the type that is flattened from this path. -/
def joined (path : TypePath) : String := "_".intercalate path.segments

/-- The path as error messages show it. -/
def trail (path : TypePath) : String := " > ".intercalate path.segments

@[simp] theorem segments_child (path : TypePath) (name : String) :
    (path.child name).segments = path.segments ++ [name] := rfl

@[simp] theorem segments_nested_none (name : String) : (nested none name).segments = [name] := rfl

@[simp] theorem segments_nested_some (path : TypePath) (name : String) :
    (nested (some path) name).segments = path.segments ++ [name] := rfl

theorem segments_injective {p q : TypePath} (h : p.segments = q.segments) : p = q := by
  obtain ⟨hr, hb⟩ := List.cons.inj h
  cases p; cases q; cases hr; cases hb; rfl

end TypePath

/-- The three kinds of type that the output declares. -/
inductive Kind where
  | enum
  | type
  | interface
deriving DecidableEq

/-- The keyword that opens a declaration. -/
def Kind.keyword : Kind → String
  | .enum => "enum"
  | .type => "type"
  | .interface => "interface"

/-- What a type holds; only the composite under the root name is an interface. -/
inductive Body where
  | enum (values : List String)
  | composite (interface : Bool) (fields : Members Field)
deriving DecidableEq

/-- A type of the output, with the path that it was flattened from. -/
structure Entry where
  path : TypePath
  description : Option String
  /-- Whether a field of this type is never null. -/
  required : Bool
  body : Body
deriving DecidableEq

namespace Entry

/-- The name under which the type is known. -/
def key (entry : Entry) : String := entry.path.joined

/-- The kind of the type. -/
def kind (entry : Entry) : Kind :=
  match entry.body with
  | .enum _ => .enum
  | .composite true _ => .interface
  | .composite false _ => .type

end Entry
end SchemaSdl
