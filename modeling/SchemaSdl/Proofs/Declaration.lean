import Mathlib.Data.List.Forall2
import SchemaSdl.Proofs.Survey

/-! Which places can be converted, and which type is declared at each. A survey goes to its end exactly if every
place is admitted, and then it finds the declared types. -/

namespace SchemaSdl

/-! ### Admitted places -/

/-- A place that holds a node with a shape. If it is a reference, a chain of aliases without repetition leads on
from its target. -/
def Place.Admitted (document : Document) (place : Place) : Prop :=
  ∃ node, place.slot = some node ∧ node.shape ≠ .unmapped ∧
    ∀ target list, node.shape = .reference target list → ∃ chain, document.Leads target chain ∧ chain.Nodup

namespace Converter
variable {converter : Converter} {place : Place} {places : List Place}

theorem admitted_of_field {field : Field} (h : converter.field place = .ok field) :
    place.Admitted converter.document := by
  cases hslot : place.slot with
  | none =>
    rw [field_of_none hslot] at h
    cases h
  | some node =>
    rw [field_of_some hslot] at h
    refine ⟨node, hslot, fun hshape => ?_, fun target list hshape => ?_⟩ <;> rw [hshape] at h
    · cases h
    · obtain ⟨chain, hleads, hnodup, -⟩ := Document.exists_settle_eq_ok_iff.mp ⟨field, h⟩
      exact ⟨chain, hleads, hnodup⟩

theorem exists_field_of_admitted (h : ∀ q ∈ place.tree, q.Admitted converter.document) :
    ∃ field, converter.field place = .ok field := by
  induction place using Place.tree_induction with
  | step place ih =>
    obtain ⟨node, hslot, hmapped, hreference⟩ := h place place.self_mem_tree
    rw [field_of_some hslot]
    cases hshape : node.shape with
    | reference target list =>
      obtain ⟨chain, hleads, hnodup⟩ := hreference target list hshape
      exact Document.exists_settle_eq_ok_iff.mpr ⟨chain, hleads, hnodup, by simp⟩
    | inlineArray inner =>
      have hitems : Place.items place.path inner ∈ place.children := by simp [Place.children, hslot, hshape]
      obtain ⟨item, hitem⟩ := ih _ hitems fun q hq =>
        h q (Place.mem_tree_iff.mpr ((Place.Inline.step .root hitems).trans (Place.mem_tree_iff.mp hq)))
      exact ⟨_, congrArg (Except.map _) hitem⟩
    | unmapped => exact absurd hshape hmapped
    | _ => exact ⟨_, rfl⟩

/-- A survey of whole trees goes to its end exactly if all their places are admitted. -/
theorem survey_trees_eq_ok_iff : (converter.survey (places.flatMap Place.tree)).2 = .ok () ↔
    ∀ place ∈ places.flatMap Place.tree, place.Admitted converter.document := by
  rw [survey_eq_ok_iff]
  constructor
  · intro h place hplace
    obtain ⟨field, hfield⟩ := h place hplace
    exact admitted_of_field hfield
  · intro h place hplace
    obtain ⟨root, hroot, hplace⟩ := List.mem_flatMap.mp hplace
    refine exists_field_of_admitted fun q hq => h q (List.mem_flatMap.mpr ⟨root, hroot, ?_⟩)
    exact Place.mem_tree_iff.mpr ((Place.mem_tree_iff.mp hplace).trans (Place.mem_tree_iff.mp hq))

/-! ### Declared types -/

/-- The type that is declared at a place: the values of an enumeration, or the fields that the properties of a
composite give, in their order, with a placeholder where there are none. -/
inductive Declares (converter : Converter) : Place → Entry → Prop
  | enum {path : TypePath} {required : Bool} {node : Node} {values : List String} (h : node.shape = .enum values) :
      Declares converter ⟨path, some node, required⟩
        ⟨path, node.description, required, .enum (values.map sanitized)⟩
  | composite {path : TypePath} {required : Bool} {node : Node} {properties : Members (Option Node)}
      {names : List String} {fields : Members Field} (h : node.shape = .composite properties names)
      (hfields : List.Forall₂ (fun p named => named.1 = p.1 ∧ converter.field (.property path names p) = .ok named.2)
        properties fields) :
      Declares converter ⟨path, some node, required⟩
        ⟨path, node.description, required, .composite (path.joined = converter.root) (filled fields)⟩

theorem Declares.path_required {entry : Entry} (h : converter.Declares place entry) :
    entry.path = place.path ∧ entry.required = place.required := by
  cases h <;> exact ⟨rfl, rfl⟩

theorem forall₂_fieldsOf {path : TypePath} {names : List String} {properties : Members (Option Node)}
    (h : ∀ p ∈ properties, ∃ field, converter.field (.property path names p) = .ok field) :
    List.Forall₂ (fun p named => named.1 = p.1 ∧ converter.field (.property path names p) = .ok named.2) properties
      (converter.fieldsOf (properties.map (Place.property path names))) := by
  induction properties with
  | nil => exact .nil
  | cons p rest ih =>
    obtain ⟨⟨field, hfield⟩, hrest⟩ := List.forall_mem_cons.mp h
    rw [List.map_cons, fieldsOf_cons hfield]
    exact .cons ⟨TypePath.lastName_child _ _, hfield⟩ (ih hrest)

theorem declares_of_typeAt? {entry : Entry} (h : converter.typeAt? place = some entry)
    (hchildren : ∀ lower ∈ place.children, ∃ field, converter.field lower = .ok field) :
    converter.Declares place entry := by
  obtain ⟨path, _ | node, required⟩ := place
  · cases h
  · simp only [typeAt?, Option.bind_some] at h
    split at h
    · cases h
      exact .enum ‹_›
    · rename_i properties names hshape
      cases h
      rw [Place.children_of_composite hshape] at hchildren ⊢
      exact .composite hshape (forall₂_fieldsOf fun p hp => hchildren _ (List.mem_map_of_mem hp))
    · cases h

theorem forall₂_declares (h : ∀ place ∈ places, ∀ entry, converter.typeAt? place = some entry →
    converter.Declares place entry) :
    List.Forall₂ converter.Declares (places.filter Place.declaresType) (places.filterMap converter.typeAt?) := by
  induction places with
  | nil => exact .nil
  | cons place rest ih =>
    obtain ⟨hplace, hrest⟩ := List.forall_mem_cons.mp h
    have hdeclares : (converter.typeAt? place).isSome = place.declaresType := isSome_typeAt?
    rw [List.filter_cons, List.filterMap_cons, ← hdeclares]
    cases htype : converter.typeAt? place with
    | none => exact ih hrest
    | some entry => exact .cons (hplace entry htype) (ih hrest)

theorem keys_filterMap_typeAt? : (places.filterMap converter.typeAt?).map Entry.key =
    (places.filter Place.declaresType).map fun place => place.path.joined := by
  induction places with
  | nil => rfl
  | cons place rest ih =>
    have hdeclares : (converter.typeAt? place).isSome = place.declaresType := isSome_typeAt?
    rw [List.filter_cons, List.filterMap_cons, ← hdeclares]
    cases htype : converter.typeAt? place with
    | none => exact ih
    | some entry =>
      simp only [Option.isSome_some, ↓reduceIte, List.map_cons, ih, Entry.key, path_of_typeAt? htype]

end Converter
end SchemaSdl
