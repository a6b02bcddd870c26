import SchemaSdl.Fault
import SchemaSdl.Registry
import SchemaSdl.Schema.Shape
import SchemaSdl.Text.Blank

/-! From schema nodes to types. Scalars and references stay inside the field that holds them; values and
properties become types of their own, named by the path that leads to them. -/

namespace SchemaSdl

/-- What a conversion reports as it goes. -/
inductive Notice where
  | classifying (field : String) (path : TypePath)
  | registering (path : TypePath) (kind : Kind)
  | converted (selected registered : Nat)
deriving DecidableEq

/-- What a conversion has brought about: the types it has registered and the notices it has given, in order. -/
structure Walk where
  registry : Registry := .empty
  notices : Array Notice := #[]

/-- A conversion may fail, and what it brought about until then stays. -/
abbrev Conversion := ExceptT Fault (StateM Walk)

namespace Conversion

/-- Gives a notice. -/
def note (notice : Notice) : Conversion Unit :=
  modifyThe Walk fun walk => { walk with notices := walk.notices.push notice }

/-- Adds a type to those registered so far. -/
def register (entry : Entry) : Conversion Unit := do
  note (.registering entry.path entry.kind)
  let walk ← getThe Walk
  match walk.registry.register entry with
  | .error held => throw (.duplicateType held.path entry.path)
  | .ok registry => set { walk with registry }

end Conversion

/-- What the holder of a converted node puts into its own field list. -/
structure Fragment where
  name : String
  field : Field
  /-- The type registered for the node itself, if any. -/
  registered : Option TypePath
deriving DecidableEq

/-- A value without its blanks and hyphens, as names of enumerated values must be. -/
def sanitized (value : String) : String := String.ofList (value.toList.filter fun c => !Text.isBlank c && c ≠ '-')

/-! ### References -/

namespace Document

/-- The definitions that have not been passed. -/
def notPassed (document : Document) (passed : List String) : List String :=
  document.names.filter fun name => !passed.contains name

theorem length_notPassed_lt {document : Document} {passed : List String} {target : String} {node : Node}
    (hnode : document.get? target = some node) (h : target ∉ passed) :
    (document.notPassed (passed ++ [target])).length < (document.notPassed passed).length := by
  have hmem : target ∈ document.notPassed passed := by
    simpa [notPassed, h] using mem_names_of_get?_eq_some hnode
  have hfilter : document.notPassed (passed ++ [target])
      = (document.notPassed passed).filter fun name => name ≠ target := by
    simp only [notPassed, List.filter_filter]
    congr 1
    funext name
    by_cases hn : name = target <;> simp [hn]
  rw [hfilter]
  refine Nat.lt_of_le_of_ne (List.length_filter_le _ _) fun heq => ?_
  have := List.length_filter_eq_length_iff.1 heq target hmem
  simp at this

/-- Follows a reference to what a field of this name holds. Aliases are passed through, none of them twice: the
chain ends at a scalar, which is taken as it stands, or at a definition that is named. -/
def follow (document : Document) (field : String) (required : Bool) (passed : List String) (description : Option String)
    (target : String) (list : Bool) : Conversion Field :=
  match hnode : document.get? target with
  | none => throw (.unresolvedReference field target)
  | some node =>
    if node.isAlias then
      if h : target ∈ passed then throw (.cyclicReference (passed ++ [target]))
      else do
        Conversion.note (.classifying field (.nested none field))
        match node.shape with
        | .scalar scalar => return ⟨.scalar scalar, node.description, required⟩
        | .reference next list =>
          have := length_notPassed_lt hnode h
          follow document field required (passed ++ [target]) node.description next list
        | _ => throw (.unmappable field none)
    else
      let label := Label.named target
      return ⟨if list then .list label else label, written? description <|> written? node.description, required⟩
termination_by (document.notPassed passed).length

end Document

/-! ### Nodes -/

/-- What a conversion works on: a document and the name of the type that becomes the root interface. -/
structure Converter where
  document : Document
  root : String

namespace Converter

mutual

/-- Converts a node that a holder declares under a name. -/
def visit (converter : Converter) (name : String) (node : Node) (parent : Option TypePath) (required : Bool) :
    Conversion Fragment := do
  let path := TypePath.nested parent name
  Conversion.note (.classifying name path)
  match h : node.shape with
  | .enum values =>
    Conversion.register ⟨path, node.description, required, .enum (values.map sanitized)⟩
    return ⟨name, ⟨.named path.joined, node.description, required⟩, some path⟩
  | .scalar scalar => return ⟨name, ⟨.scalar scalar, node.description, required⟩, none⟩
  | .reference target list =>
    let field ← converter.document.follow name required [] node.description target list
    return ⟨name, field, none⟩
  | .composite properties names =>
    have := Node.sizeOf_lt_of_shape_eq_composite h
    let fields ← converter.visitProperties path names properties
    let fields := if fields.isEmpty then [("_", Field.placeholder)] else fields
    Conversion.register
      ⟨path, node.description, required, .composite (path.joined = converter.root) fields⟩
    return ⟨name, ⟨.named path.joined, node.description, required⟩, some path⟩
  | .inlineArray items =>
    have := Node.sizeOf_lt_of_shape_eq_inlineArray h
    let item ← converter.visit name items (some path) false
    return ⟨name, ⟨.list item.field.label, node.description, false⟩, none⟩
  | .unmapped => throw (.unmappable name parent)
termination_by sizeOf node

/-- Converts the properties of a composite, those in a list of names being required. -/
def visitProperties (converter : Converter) (path : TypePath) (required : List String)
    (properties : Members (Option Node)) : Conversion (Members Field) :=
  match properties with
  | [] => return []
  | (name, none) :: _ => throw (.malformedNode name path)
  | (name, some node) :: rest => do
    let fragment ← converter.visit name node (some path) (required.contains name)
    let fields ← converter.visitProperties path required rest
    return (fragment.name, fragment.field) :: fields
termination_by sizeOf properties

end

/-- Converts what is declared under a name, with the names that its holder requires. -/
def convert (converter : Converter) (name : String) (node : Option Node) (parent : Option TypePath)
    (required : List String) : Conversion Fragment :=
  match node with
  | none => throw (.malformedNode name parent)
  | some node => converter.visit name node parent (required.contains name)

end Converter
end SchemaSdl
