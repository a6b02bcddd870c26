import SchemaSdl.Members

/-! Schema nodes and documents of named definitions. A document holds no name twice at any level. -/

namespace SchemaSdl

/-- A schema as it stands in a document. A property may be there without a schema. -/
structure Node where
  type : Option String := none
  properties : Option (List (String × Option Node)) := none
  items : Option Node := none
  reference : Option String := none
  values : Option (List String) := none
  required : Option (List String) := none
  description : Option String := none

/-- Property names are distinct, here and in every node below. -/
inductive Node.WellFormed : Node → Prop
  | intro {node : Node}
      (distinct : ∀ properties, node.properties = some properties → Members.NamesDistinct properties)
      (slots : ∀ properties, node.properties = some properties →
        ∀ name inner, (name, some inner) ∈ properties → Node.WellFormed inner)
      (items : ∀ inner, node.items = some inner → Node.WellFormed inner) : Node.WellFormed node

/-- A node together with the fact that its property names are distinct. -/
abbrev SoundNode := { node : Node // node.WellFormed }

/-- The members of an object of schemas, some of them without one. -/
structure Definitions where
  members : Members (Option Node)
  distinct : members.NamesDistinct
  wellFormed : ∀ name node, (name, some node) ∈ members → node.WellFormed

namespace Definitions

/-- No definition at all. -/
def empty : Definitions := ⟨[], Members.namesDistinct_nil, by simp⟩

instance : Inhabited Definitions := ⟨empty⟩

/-- A definition put under a name, which keeps its place if it is there. -/
def put (definitions : Definitions) (name : String) (slot : Option SoundNode) :
    Definitions where
  members := definitions.members.put name (slot.map Subtype.val)
  distinct := definitions.distinct.put ..
  wellFormed n node h := by
    rcases Members.mem_of_mem_put h with h | h
    · exact definitions.wellFormed n node h
    · cases slot with
      | none => simp at h
      | some inner =>
        obtain ⟨-, h⟩ := Prod.mk.inj h
        exact Option.some.inj h ▸ inner.property

end Definitions

/-- What is said about a node, the nodes inside it being sound. -/
structure Node.Parts where
  type : Option String := none
  properties : Option Definitions := none
  items : Option SoundNode := none
  reference : Option String := none
  values : Option (List String) := none
  required : Option (List String) := none
  description : Option String := none

/-- The node of which these are the parts. -/
def Node.ofParts (parts : Node.Parts) : SoundNode where
  val :=
    { type := parts.type, properties := parts.properties.map Definitions.members,
      items := parts.items.map Subtype.val, reference := parts.reference, values := parts.values,
      required := parts.required, description := parts.description }
  property := by
    refine .intro ?_ ?_ ?_
    · rintro properties h
      obtain ⟨definitions, -, rfl⟩ := Option.map_eq_some_iff.1 h
      exact definitions.distinct
    · rintro properties h name inner hmem
      obtain ⟨definitions, -, rfl⟩ := Option.map_eq_some_iff.1 h
      exact definitions.wellFormed name inner hmem
    · rintro inner h
      obtain ⟨items, -, rfl⟩ := Option.map_eq_some_iff.1 h
      exact items.property

/-- A document is its definitions. -/
structure Document where
  definitions : Definitions := .empty

namespace Document

/-- The definition under a name; a name without a schema has none. -/
def get? (document : Document) (name : String) : Option Node :=
  (document.definitions.members.get? name).join

/-- The names of all definitions, with and without a schema. -/
def names (document : Document) : List String := document.definitions.members.names

theorem mem_names_of_get?_eq_some {document : Document} {name : String} {node : Node}
    (h : document.get? name = some node) : name ∈ document.names :=
  Members.mem_names_of_get?_eq_some (Option.join_eq_some_iff.1 h)

end Document
end SchemaSdl
