import Mathlib
import SchemaSdl.Proofs.Testing

/-! Which names the types of a full pass leave open. A field names a type that stands at a place of the pass, or the
target of a reference. The first is always registered; the second only if it is an enumeration or a composite. -/

namespace SchemaSdl

/-- The type that a label names under its brackets. Leaf types are built in. -/
def Label.named? : Label → Option String
  | .scalar _ => none
  | .named name => some name
  | .list item => item.named?

/-- A definition that references name is a type of its own, or else a reference or an array, if it has a shape. -/
theorem Node.shape_of_not_isAlias {node : Node} (h : node.isAlias = false) (hmapped : node.shape ≠ .unmapped) :
    node.shape.declaresType = true ∨ (∃ target list, node.shape = .reference target list) ∨
      ∃ inner, node.shape = .inlineArray inner := by
  cases hshape : node.shape with
  | enum values => exact Or.inl rfl
  | composite properties names => exact Or.inl rfl
  | reference target list => exact Or.inr (Or.inl ⟨target, list, rfl⟩)
  | inlineArray inner => exact Or.inr (Or.inr ⟨inner, rfl⟩)
  | unmapped => exact absurd hshape hmapped
  | scalar s =>
    -- What makes a scalar also makes an alias.
    exfalso
    unfold Node.shape at hshape
    split at hshape
    · cases hshape
    · rename_i hvalues hscalar
      obtain ⟨keyword, hkeyword, hs⟩ := Option.bind_eq_some_iff.mp hscalar
      rw [Node.isAlias, hkeyword, hvalues] at h
      have hobject : keyword ≠ "object" := by
        rintro rfl
        cases hs
      have harray : keyword ≠ "array" := by
        rintro rfl
        cases hs
      simp [hobject, harray] at h
    · cases hshape
    · cases hshape
    · rw [Node.structuralShape] at hshape
      unfold Node.arrayShape at hshape
      repeat' split at hshape
      all_goals cases hshape

/-! ### Names in fields -/

namespace Converter
variable {converter : Converter} {place : Place} {name : String}

/-- A name is that of a type in the tree of a place, or of a definition that references name. -/
def Known (converter : Converter) (place : Place) (name : String) : Prop :=
  (∃ q ∈ place.tree, q.declaresType = true ∧ q.path.joined = name) ∨
    ∃ node, converter.document.get? name = some node ∧ node.isAlias = false

theorem Known.of_child {lower : Place} (hlower : lower ∈ place.children) (h : converter.Known lower name) :
    converter.Known place name := by
  refine h.imp_left ?_
  rintro ⟨q, hq, hdeclares, hname⟩
  refine ⟨q, ?_, hdeclares, hname⟩
  exact Place.mem_tree_iff.mpr ((Place.Inline.step .root hlower).trans (Place.mem_tree_iff.mp hq))

/-- The field for a place names what stands in its tree or what a reference in it leads to. -/
theorem known_of_field {field : Field} (h : converter.field place = .ok field)
    (hname : field.label.named? = some name) : converter.Known place name := by
  induction place using Place.tree_induction generalizing field with
  | step place ih =>
    cases hslot : place.slot with
    | none =>
      rw [field_of_none hslot] at h
      cases h
    | some node =>
      rw [field_of_some hslot] at h
      cases hshape : node.shape with
      | enum values =>
        rw [hshape] at h
        cases h
        exact Or.inl ⟨place, place.self_mem_tree, by simp [Place.declaresType, hslot, hshape, Shape.declaresType],
          Option.some.inj hname⟩
      | composite properties names =>
        rw [hshape] at h
        cases h
        exact Or.inl ⟨place, place.self_mem_tree, by simp [Place.declaresType, hslot, hshape, Shape.declaresType],
          Option.some.inj hname⟩
      | scalar s =>
        rw [hshape] at h
        cases h
        cases hname
      | reference target list =>
        rw [hshape] at h
        rcases Document.settle_eq_ok h with ⟨s, hlabel⟩ | ⟨target, node, hnode, halias, hlabel | hlabel⟩
        · rw [hlabel] at hname
          cases hname
        all_goals
          rw [hlabel] at hname
          obtain rfl := Option.some.inj hname
          exact Or.inr ⟨node, hnode, halias⟩
      | inlineArray inner =>
        rw [hshape] at h
        have hitems : Place.items place.path inner ∈ place.children := by simp [Place.children, hslot, hshape]
        cases hitem : converter.field (.items place.path inner) with
        | error fault =>
          simp only [hitem] at h
          cases h
        | ok item =>
          simp only [hitem] at h
          cases h
          exact (ih _ hitems hitem hname).of_child hitems
      | unmapped =>
        rw [hshape] at h
        cases h

/-- A field of a composite is its placeholder or comes from a place one step down. -/
theorem mem_fields_of_typeAt? {entry : Entry} {interface : Bool} {fields : Members Field} {named : String × Field}
    (h : converter.typeAt? place = some entry) (hbody : entry.body = .composite interface fields)
    (hnamed : named ∈ fields) :
    named.2 = .placeholder ∨ ∃ lower ∈ place.children, converter.field lower = .ok named.2 := by
  obtain ⟨node, -, h⟩ := Option.bind_eq_some_iff.mp h
  split at h
  · cases h
    cases hbody
  · cases h
    obtain ⟨-, rfl⟩ := Body.composite.inj hbody
    rw [filled] at hnamed
    split at hnamed
    · exact Or.inl (congrArg Prod.snd (List.mem_singleton.mp hnamed))
    · obtain ⟨lower, hlower, hpair⟩ := List.mem_filterMap.mp hnamed
      refine Or.inr ⟨lower, hlower, ?_⟩
      cases hfield : converter.field lower with
      | error fault =>
        rw [hfield] at hpair
        cases hpair
      | ok field =>
        rw [hfield] at hpair
        cases hpair
        rfl
  · cases h

theorem known_of_typeAt? {entry : Entry} {interface : Bool} {fields : Members Field} {named : String × Field}
    (h : converter.typeAt? place = some entry) (hbody : entry.body = .composite interface fields)
    (hnamed : named ∈ fields) (hname : named.2.label.named? = some name) : converter.Known place name := by
  rcases mem_fields_of_typeAt? h hbody hnamed with hplaceholder | ⟨lower, hlower, hfield⟩
  · rw [hplaceholder] at hname
    cases hname
  · exact (known_of_field hfield hname).of_child hlower

end Converter

/-! ### Names in a registry -/

namespace Pass
open Selector
variable {pass : Pass} {registry : Registry} {filter exclude : Option (String → Bool)} {name : String}

theorem mem_keys_iff (h : pass.registry (ofPredicates filter exclude) = .ok registry) :
    name ∈ registry.keys ↔
      ∃ place, pass.Inline filter exclude place ∧ place.declaresType = true ∧ place.path.joined = name := by
  obtain ⟨-, -, rfl⟩ := registry_eq_ok_iff_admitted.mp h
  rw [Registry.keys, Converter.keys_filterMap_typeAt?]
  simp only [List.mem_map, List.mem_filter, mem_places_iff, and_assoc]

theorem inline_of_get? {node : Node} (h : pass.document.get? name = some node) :
    pass.Inline none none ⟨⟨name, []⟩, some node, false⟩ := by
  refine ⟨_, List.mem_map.mpr ⟨(name, some node), ?_, rfl⟩, .root⟩
  exact List.mem_filter.mpr ⟨Document.mem_of_get? h, rfl⟩

theorem exists_entry_iff (h : pass.registry (ofPredicates none none) = .ok registry) {node : Node}
    (hnode : pass.document.get? name = some node) :
    (∃ entry ∈ registry.entries, entry.path = ⟨name, []⟩) ↔ node.shape.declaresType = true := by
  have hselects : (ofPredicates none none).selects name = .ok true := rfl
  rw [exists_path_iff h hnode, hselects]
  exact ⟨And.right, And.intro rfl⟩

/-- A name in a field of a full pass is registered, or it is that of a reference or an array among the definitions.
Neither becomes a type, so these names stay open unless a type elsewhere flattens to them. Of the definitions that
references name, those that are enumerations or composites are registered under their own names, and no others. -/
theorem named_mem_keys_or (pass : Pass) (registry : Registry) (h : pass.registry {} = .ok registry) :
    (∀ entry ∈ registry.entries, ∀ interface fields, entry.body = .composite interface fields → ∀ named ∈ fields,
      ∀ name, named.2.label.named? = some name → name ∈ registry.keys ∨
        ∃ node, pass.document.get? name = some node ∧ node.isAlias = false ∧
          ((∃ target list, node.shape = .reference target list) ∨ ∃ inner, node.shape = .inlineArray inner)) ∧
    ∀ name node, pass.document.get? name = some node → node.isAlias = false →
      ((∃ entry ∈ registry.entries, entry.path = ⟨name, []⟩) ↔
        (∃ values, node.shape = .enum values) ∨ ∃ properties names, node.shape = .composite properties names) := by
  have hfull : pass.registry (ofPredicates none none) = .ok registry := h
  obtain ⟨hadmitted, -, hentries⟩ := registry_eq_ok_iff_admitted.mp hfull
  refine ⟨fun entry hentry interface fields hbody named hnamed name hname => ?_, fun name node hnode _ => ?_⟩
  · rw [hentries] at hentry
    obtain ⟨place, hplace, htype⟩ := List.mem_filterMap.mp hentry
    rcases Converter.known_of_typeAt? htype hbody hnamed hname with ⟨q, hq, hdeclares, hjoined⟩ | ⟨node, hnode, halias⟩
    · refine Or.inl ((mem_keys_iff hfull).mpr ⟨q, ?_, hdeclares, hjoined⟩)
      obtain ⟨root, hroot, hinline⟩ := mem_places_iff.mp hplace
      exact ⟨root, hroot, hinline.trans (Place.mem_tree_iff.mp hq)⟩
    · obtain ⟨found, hfound, hmapped, -⟩ := hadmitted _ (mem_places_iff.mpr (inline_of_get? hnode))
      obtain rfl := Option.some.inj hfound
      rcases Node.shape_of_not_isAlias halias hmapped with hdeclares | hother
      · exact Or.inl ((mem_keys_iff hfull).mpr ⟨_, inline_of_get? hnode, hdeclares, rfl⟩)
      · exact Or.inr ⟨node, hnode, halias, hother⟩
  · rw [exists_entry_iff hfull hnode]
    cases node.shape <;> simp [Shape.declaresType]

/-! ### An open name -/

/-- An array of texts among the definitions, and a type whose only property references it. -/
def arrayReferenced : Pass where
  document := ⟨Definitions.empty
    |>.put "T" (some (Node.ofParts
      { type := some "array", items := some (Node.ofParts { type := some "string" }) }))
    |>.put "A" (some (Node.ofParts
      { type := some "object",
        properties := some (Definitions.empty.put "x" (some (Node.ofParts
          { reference := some "#/definitions/T" }))) }))⟩
  root := "Root"
  template := none
  root_ne := by decide

/-- What it comes to: a type with a field that names the array. -/
def arrayReferencedTypes : Registry :=
  ⟨[⟨⟨"A", []⟩, none, false, .composite false [("x", ⟨.named "T", none, false⟩)]⟩]⟩

theorem registry_arrayReferenced : arrayReferenced.registry {} = .ok arrayReferencedTypes := by cbv

/-- A full pass may succeed and leave a name open, of a definition that the reference names and does not inline. -/
theorem exists_open_name :
    arrayReferenced.registry {} = .ok arrayReferencedTypes ∧
    arrayReferenced.render {} = .ok "type A \x7b\n  x: T\n\x7d" ∧
    (∃ node, arrayReferenced.document.get? "T" = some node ∧ node.isAlias = false) ∧
    ∃ entry ∈ arrayReferencedTypes.entries, ∃ fields, entry.body = .composite false fields ∧
      ∃ named ∈ fields, named.2.label.named? = some "T" ∧ "T" ∉ arrayReferencedTypes.keys := by
  refine ⟨registry_arrayReferenced, ?_, ⟨_, rfl, rfl⟩, _, List.mem_singleton_self _, _, rfl, _,
    List.mem_singleton_self _, rfl, by decide⟩
  rw [render, registry_arrayReferenced]
  rfl

/-- The name left open is that of a definition that is no type. -/
theorem open_name_of_arrayReferenced : ∃ node, arrayReferenced.document.get? "T" = some node ∧ node.isAlias = false ∧
    ((∃ target list, node.shape = .reference target list) ∨ ∃ inner, node.shape = .inlineArray inner) := by
  obtain ⟨hnamed, -⟩ := named_mem_keys_or arrayReferenced arrayReferencedTypes registry_arrayReferenced
  have hopen := hnamed _ (List.mem_singleton_self _) _ _ rfl _ (List.mem_singleton_self _) "T" rfl
  exact hopen.resolve_left (by decide)

end Pass
end SchemaSdl
