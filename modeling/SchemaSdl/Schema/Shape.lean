import SchemaSdl.Schema.Node
import SchemaSdl.Sdl.Label

/-! What a schema node describes. A node has one shape, chosen by the first rule that fits. -/

namespace SchemaSdl

/-- The definition that a reference points to is what follows its last slash. -/
def referenceTarget (reference : String) : String :=
  String.ofList (reference.toList.reverse.takeWhile (· ≠ '/')).reverse

/-- The kinds of node that conversion tells apart. -/
inductive Shape where
  | enum (values : List String)
  | scalar (scalar : Scalar)
  /-- A reference, or a list of what is referred to. -/
  | reference (target : String) (list : Bool)
  /-- An object with properties, or an array whose items have them. -/
  | composite (properties : Members (Option Node)) (required : List String)
  | inlineArray (items : Node)
  | unmapped

namespace Node

/-- The shape of a node whose type says that it is an array of these items. -/
def arrayShape (required : Option (List String)) (items : Node) : Shape :=
  match items.properties with
  | some properties => .composite properties ((required <|> items.required).getD [])
  | none => if items.type = some "object" then .unmapped else .inlineArray items

/-- The shape that a node's type, properties and items give it. -/
def structuralShape (node : Node) : Shape :=
  if node.type = some "object" then
    match node.properties with
    | some properties => .composite properties (node.required.getD [])
    | none => .unmapped
  else if node.type = some "array" then
    match node.items with
    | some items => arrayShape node.required items
    | none => .unmapped
  else .unmapped

/-- The shape of a node: values come first, then a scalar type, then a reference of the node itself, then one
of its items, and its structure last. -/
def shape (node : Node) : Shape :=
  match node.values, node.type.bind Scalar.ofKeyword?, node.reference, node.items.bind Node.reference with
  | some values, _, _, _ => .enum values
  | none, some scalar, _, _ => .scalar scalar
  | none, none, some reference, _ => .reference (referenceTarget reference) false
  | none, none, none, some reference => .reference (referenceTarget reference) true
  | none, none, none, none => node.structuralShape

/-- A definition that references inline instead of naming it. -/
def isAlias (node : Node) : Bool :=
  node.type ≠ some "object" && node.type ≠ some "array" && node.values.isNone

/-! ### Nodes inside a shape are smaller -/

theorem sizeOf_properties_lt {node : Node} {properties : Members (Option Node)}
    (h : node.properties = some properties) : sizeOf properties < sizeOf node := by
  cases node
  simp only at h
  subst h
  simp only [mk.sizeOf_spec, Option.some.sizeOf_spec]
  omega

theorem sizeOf_items_lt {node items : Node} (h : node.items = some items) : sizeOf items < sizeOf node := by
  cases node
  simp only at h
  subst h
  simp only [mk.sizeOf_spec, Option.some.sizeOf_spec]
  omega

theorem structuralShape_of_shape {node : Node} (h : ∀ v, node.shape ≠ .enum v) (h' : ∀ s, node.shape ≠ .scalar s)
    (h'' : ∀ t l, node.shape ≠ .reference t l) : node.shape = node.structuralShape := by
  unfold shape at *
  split <;> simp_all

theorem sizeOf_lt_of_shape_eq_composite {node : Node} {properties : Members (Option Node)} {required : List String}
    (h : node.shape = .composite properties required) : sizeOf properties < sizeOf node := by
  rw [structuralShape_of_shape (by simp [h]) (by simp [h]) (by simp [h])] at h
  simp only [structuralShape, arrayShape] at h
  split at h
  · split at h
    · cases h; exact sizeOf_properties_lt ‹_›
    · cases h
  · split at h
    · split at h
      · split at h
        · cases h; exact Nat.lt_trans (sizeOf_properties_lt ‹_›) (sizeOf_items_lt ‹_›)
        · split at h <;> cases h
      · cases h
    · cases h

theorem sizeOf_lt_of_shape_eq_inlineArray {node items : Node} (h : node.shape = .inlineArray items) :
    sizeOf items < sizeOf node := by
  rw [structuralShape_of_shape (by simp [h]) (by simp [h]) (by simp [h])] at h
  simp only [structuralShape, arrayShape] at h
  split at h
  · split at h <;> cases h
  · split at h
    · split at h
      · split at h
        · cases h
        · split at h
          · cases h
          · cases h; exact sizeOf_items_lt ‹_›
      · cases h
    · cases h

/-- An alias is a scalar, a reference or a node without a shape. -/
theorem shape_of_isAlias {node : Node} (h : node.isAlias = true) :
    (∃ s, node.shape = .scalar s) ∨ (∃ t l, node.shape = .reference t l) ∨ node.shape = .unmapped := by
  simp only [isAlias, ne_eq, decide_not, Bool.and_eq_true, Bool.not_eq_eq_eq_not, Bool.not_true,
    decide_eq_false_iff_not, Option.isNone_iff_eq_none] at h
  obtain ⟨⟨ho, ha⟩, hv⟩ := h
  unfold shape
  split <;> simp_all [structuralShape]

end Node
end SchemaSdl
