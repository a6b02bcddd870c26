import Mathlib
import SchemaSdl.Proofs.Corresponding
import SchemaSdl.Proofs.Rebuilding

/-! Descriptions do not bear on anything else. Without any descriptions a document gives the same pass: the same fault,
or the same types without descriptions. So documents that differ in descriptions alone give passes that do. -/

namespace SchemaSdl

/-! ### Nodes -/

namespace Node

/-- A node without descriptions, its own and those of the nodes inside it. -/
def bare (node : Node) : Node := node.rebuild fun node => { node with description := none }

theorem bare_eq (node : Node) : node.bare = { node with
    properties := node.properties.map (·.map fun property => (property.1, property.2.map bare))
    items := node.items.map bare
    description := none } :=
  rebuild_eq _ node

@[simp] theorem description_bare (node : Node) : node.bare.description = none := by rw [bare_eq]

@[simp] theorem isAlias_bare (node : Node) : node.bare.isAlias = node.isAlias := by
  rw [bare_eq]
  rfl

theorem WellFormed.bare {node : Node} (h : node.WellFormed) : node.bare.WellFormed :=
  h.rebuild fun _ ⟨distinct, slots, items⟩ => .intro distinct slots items

end Node

/-- A shape whose inner nodes have no descriptions. -/
def Shape.bare : Shape → Shape
  | .composite properties names => .composite (properties.map fun property => (property.1, property.2.map Node.bare)) names
  | .inlineArray items => .inlineArray items.bare
  | shape => shape

theorem Node.arrayShape_bare (required : Option (List String)) (items : Node) :
    arrayShape required items.bare = (arrayShape required items).bare := by
  rw [bare_eq, arrayShape, arrayShape]
  cases hproperties : items.properties with
  | some properties => rfl
  | none =>
    by_cases hobject : items.type = some "object"
    · simp only [Option.map_none, hobject, ↓reduceIte, Shape.bare]
    · simp only [Option.map_none, hobject, ↓reduceIte, Shape.bare, bare_eq items, hproperties]

theorem Node.structuralShape_bare (node : Node) : node.bare.structuralShape = node.structuralShape.bare := by
  rw [bare_eq, structuralShape, structuralShape]
  dsimp only
  split
  · cases node.properties <;> rfl
  · split
    · cases node.items with
      | none => rfl
      | some items => exact arrayShape_bare node.required items
    · rfl

/-- The rules that give a node its shape do not look at descriptions. -/
theorem Node.shape_bare (node : Node) : node.bare.shape = node.shape.bare := by
  have hvalues : node.bare.values = node.values := by rw [bare_eq]
  have htype : node.bare.type = node.type := by rw [bare_eq]
  have hreference : node.bare.reference = node.reference := by rw [bare_eq]
  have hitems : node.bare.items.bind Node.reference = node.items.bind Node.reference := by
    rw [bare_eq]
    cases node.items with
    | none => rfl
    | some items => simp [bare_eq items]
  rw [shape, shape, hvalues, htype, hreference, hitems, structuralShape_bare]
  split <;> rfl

/-! ### Documents and types -/

/-- Definitions without descriptions. -/
def Definitions.bare (definitions : Definitions) : Definitions where
  members := definitions.members.map fun member => (member.1, member.2.map Node.bare)
  distinct := by
    rw [Members.NamesDistinct, Members.names, List.map_map]
    exact definitions.distinct
  wellFormed name node h := by
    obtain ⟨⟨first, slot⟩, hmember, heq⟩ := List.mem_map.mp h
    obtain ⟨rfl, hslot⟩ := Prod.mk.inj heq
    obtain ⟨old, rfl, rfl⟩ := Option.map_eq_some_iff.mp hslot
    exact (definitions.wellFormed _ old hmember).bare

/-- A document without descriptions. -/
def Document.bare (document : Document) : Document := ⟨document.definitions.bare⟩

theorem Document.get?_bare (document : Document) (name : String) :
    document.bare.get? name = (document.get? name).map Node.bare := by
  have hmembers : document.bare.definitions.members.get? name =
      (document.definitions.members.get? name).map (Option.map Node.bare) := Members.get?_map
  rw [get?, get?, hmembers]
  rcases document.definitions.members.get? name with _ | _ | node <;> rfl

theorem Document.get?_bare_of_some {document : Document} {name : String} {node : Node}
    (h : document.get? name = some node) : document.bare.get? name = some node.bare := by
  rw [get?_bare, h, Option.map_some]

/-- A field without its description. -/
def Field.bare (field : Field) : Field := { field with description := none }

/-- What a type holds, without the descriptions of its fields. -/
def Body.bare : Body → Body
  | .enum values => .enum values
  | .composite interface fields => .composite interface (fields.map fun named => (named.1, named.2.bare))

/-- A type without descriptions, its own and those of its fields. -/
def Entry.bare (entry : Entry) : Entry := { entry with description := none, body := entry.body.bare }

/-! ### References and places -/

theorem Document.settle_bare {document : Document} {field target : String} {required list : Bool}
    {passed : List String} {description : Option String} :
    document.bare.settle field required passed none target list =
      (document.settle field required passed description target list).map Field.bare := by
  fun_induction settle document field required passed description target list with
  | case1 passed description target list hnode =>
    rw [settle_of_none (by rw [get?_bare, hnode]; rfl)]
    rfl
  | case2 passed description target list node hnode halias hpassed =>
    rw [settle_of_some (get?_bare_of_some hnode), Node.isAlias_bare, if_pos halias, if_pos hpassed]
    rfl
  | case3 passed description target list node hnode halias hpassed s hs =>
    rw [settle_of_some (get?_bare_of_some hnode), Node.isAlias_bare, if_pos halias, if_neg hpassed,
      Node.shape_bare, hs, Node.description_bare]
    rfl
  | case4 passed description target list node hnode halias hpassed next list' hs _ ih =>
    rw [settle_of_some (get?_bare_of_some hnode), Node.isAlias_bare, if_pos halias, if_neg hpassed,
      Node.shape_bare, hs, Node.description_bare]
    exact ih
  | case5 passed description target list node hnode halias hpassed hs hr =>
    rw [settle_of_some (get?_bare_of_some hnode), Node.isAlias_bare, if_pos halias, if_neg hpassed,
      Node.shape_bare]
    cases hshape : node.shape with
    | scalar s => exact absurd hshape (hs s)
    | reference target list => exact absurd hshape (hr target list)
    | _ => rfl
  | case6 passed description target list node hnode halias =>
    rw [settle_of_some (get?_bare_of_some hnode), Node.isAlias_bare, if_neg halias, Node.description_bare]
    rfl

namespace Place

/-- A place whose node has no descriptions. -/
abbrev bare : Place → Place := onSlot (Option.map Node.bare)

theorem children_bare (place : Place) : place.bare.children = place.children.map bare := by
  obtain ⟨path, _ | node, required⟩ := place
  · rfl
  · cases hshape : node.shape with
    | composite properties names =>
      have hbare : node.bare.shape = _ := node.shape_bare
      rw [hshape] at hbare
      rw [children_of_composite hshape]
      exact (children_of_composite hbare).trans (by simp [Function.comp_def, property, onSlot])
    | inlineArray items =>
      have hbare : node.bare.shape = _ := node.shape_bare
      rw [hshape] at hbare
      rw [children_of_inlineArray hshape]
      exact children_of_inlineArray hbare
    | _ => simp [children, onSlot, Node.shape_bare, hshape, Shape.bare]

end Place

namespace Converter

/-- A conversion that works on the document without descriptions. -/
def bare (converter : Converter) : Converter := ⟨converter.document.bare, converter.root⟩

theorem field_bare (converter : Converter) (place : Place) :
    converter.bare.field place.bare = (converter.field place).map Field.bare := by
  induction place using Place.tree_induction with
  | step place ih =>
    obtain ⟨path, _ | node, required⟩ := place
    · rw [field_of_none rfl, field_of_none rfl]
      rfl
    · have hfield : converter.field ⟨path, some node, required⟩ = _ := field_of_some rfl
      have hbare : converter.bare.field ⟨path, some node.bare, required⟩ = _ := field_of_some rfl
      rw [hfield]
      refine hbare.trans ?_
      rw [Node.shape_bare, Node.description_bare]
      cases hshape : node.shape with
      | reference target list =>
        simp only [Shape.bare]
        exact Document.settle_bare
      | inlineArray items =>
        have hitems : converter.bare.field (.items path items.bare) = _ :=
          ih (.items path items) (by simp [Place.children, hshape])
        simp only [Shape.bare, hitems]
        cases converter.field (.items path items) <;> rfl
      | _ => rfl

theorem fieldsOf_bare (converter : Converter) (places : List Place) :
    converter.bare.fieldsOf (places.map Place.bare) =
      (converter.fieldsOf places).map fun named => (named.1, named.2.bare) := by
  rw [fieldsOf, fieldsOf, List.filterMap_map, List.map_filterMap]
  congr 1
  funext place
  simp only [Function.comp_apply, field_bare]
  cases converter.field place <;> rfl

theorem typeAt?_bare (converter : Converter) (place : Place) :
    converter.bare.typeAt? place.bare = (converter.typeAt? place).map Entry.bare := by
  have hchildren := place.children_bare
  obtain ⟨path, _ | node, required⟩ := place
  · rfl
  · rw [typeAt?, typeAt?, hchildren, fieldsOf_bare]
    simp only [Place.bare, Place.onSlot, Option.map_some, Option.bind_some, Node.shape_bare]
    cases hshape : node.shape with
    | composite properties names =>
      simp only [Shape.bare, Option.map_some, Node.description_bare, Entry.bare, Body.bare, filled, List.isEmpty_map]
      split <;> rfl
    | _ => simp [Shape.bare, Entry.bare, Body.bare]

theorem corresponds_bare (converter : Converter) :
    Corresponds converter converter.bare Place.bare Field.bare Entry.bare where
  children := Place.children_bare
  field_eq := converter.field_bare
  typeAt?_eq := converter.typeAt?_bare
  path_eq _ := rfl

end Converter

/-! ### Passes -/

namespace Pass

/-- A pass over the document without descriptions. -/
def bare (pass : Pass) : Pass := { pass with document := pass.document.bare }

theorem registry_bare (pass : Pass) (selector : Selector) :
    pass.bare.registry selector = (pass.registry selector).map (Registry.map Entry.bare) :=
  registry_of_corresponds pass.converter.corresponds_bare rfl

theorem registry_congr {p q : Pass} (hdocument : p.document = q.document) (hroot : p.root = q.root)
    (selector : Selector) : p.registry selector = q.registry selector := by
  rw [registry, registry, run, run, conversion, conversion, converter, converter, hdocument, hroot]

/-- Take two documents that are the same but for descriptions, and one root name and one selection of definitions, by
tests of any kind. Either both passes fail, with one and the same fault, or both succeed, and their types have the
same names in the same order and are the same but for descriptions. -/
theorem registry_of_bare_eq (p q : Pass) (hdocument : p.document.bare = q.document.bare) (hroot : p.root = q.root)
    (selector : Selector) :
    (∃ fault, p.registry selector = .error fault ∧ q.registry selector = .error fault) ∨
    ∃ r s, p.registry selector = .ok r ∧ q.registry selector = .ok s ∧ r.keys = s.keys ∧
      r.entries.map Entry.bare = s.entries.map Entry.bare := by
  have hbare : p.bare.registry selector = q.bare.registry selector :=
    registry_congr (p := p.bare) (q := q.bare) hdocument hroot selector
  rw [registry_bare, registry_bare] at hbare
  cases hp : p.registry selector with
  | error fault =>
    cases hq : q.registry selector with
    | error other =>
      rw [hp, hq] at hbare
      obtain rfl := Except.error.inj hbare
      exact Or.inl ⟨fault, rfl, rfl⟩
    | ok s =>
      rw [hp, hq] at hbare
      cases hbare
  | ok r =>
    cases hq : q.registry selector with
    | error other =>
      rw [hp, hq] at hbare
      cases hbare
    | ok s =>
      rw [hp, hq] at hbare
      have hmap : r.map Entry.bare = s.map Entry.bare := Except.ok.inj hbare
      have hkeys (registry : Registry) : (registry.map Entry.bare).keys = registry.keys :=
        Registry.keys_map fun _ => rfl
      exact Or.inr ⟨r, s, rfl, rfl, by rw [← hkeys r, hmap, hkeys s], congrArg Registry.entries hmap⟩

/-- An alias, an array and a composite, all with one description or all without one. -/
def described (description : Option String) : Pass where
  document := ⟨Definitions.empty
    |>.put "Code" (some (Node.ofParts { type := some "string", description }))
    |>.put "Item" (some (Node.ofParts
      { type := some "object", description,
        properties := some (Definitions.empty
          |>.put "code" (some (Node.ofParts { reference := some "#/definitions/Code", description }))
          |>.put "next" (some (Node.ofParts { reference := some "#/definitions/Item" }))
          |>.put "kinds" (some (Node.ofParts
            { type := some "array", items := some (Node.ofParts { values := some ["a"], description }) }))) }))⟩
  root := "Item"
  template := none
  root_ne := by decide

theorem registry_of_bare_eq_described :
    (described none).document.bare = (described (some "type")).document.bare ∧
    (described none).root = (described (some "type")).root ∧
    ∃ r s, (described none).registry {} = .ok r ∧ (described (some "type")).registry {} = .ok s ∧
      r.keys = ["Item_kinds_kinds", "Item"] ∧ s.keys = r.keys ∧ s ≠ r ∧
      r.entries.map Entry.bare = s.entries.map Entry.bare := by
  have hdocument : (described none).document.bare = (described (some "type")).document.bare := by
    simp [described, Document.bare, Definitions.bare, Definitions.put, Members.put, Definitions.empty, Node.ofParts,
      Node.bare_eq]
  have hplain : (described none).registry {} = .ok ⟨[⟨⟨"Item", ["kinds", "kinds"]⟩, none, false, .enum ["a"]⟩,
      ⟨⟨"Item", []⟩, none, false, .composite true [("code", ⟨.scalar .string, none, false⟩),
        ("next", ⟨.named "Item", none, false⟩), ("kinds", ⟨.list (.named "Item_kinds_kinds"), none, false⟩)]⟩]⟩ := by
    cbv
  rcases registry_of_bare_eq (described none) (described (some "type")) hdocument rfl {} with
    ⟨fault, hfault, -⟩ | ⟨r, s, hr, hs, hkeys, hentries⟩
  · rw [hplain] at hfault
    cases hfault
  · obtain rfl := Except.ok.inj (hplain.symm.trans hr)
    refine ⟨hdocument, rfl, _, s, hr, hs, by decide, hkeys.symm, ?_, hentries⟩
    rintro rfl
    have hdescribed : (described (some "type")).registry {} = .ok ⟨[
      ⟨⟨"Item", ["kinds", "kinds"]⟩, some "type", false, .enum ["a"]⟩,
      ⟨⟨"Item", []⟩, some "type", false, .composite true [("code", ⟨.scalar .string, some "type", false⟩),
        ("next", ⟨.named "Item", some "type", false⟩),
        ("kinds", ⟨.list (.named "Item_kinds_kinds"), none, false⟩)]⟩]⟩ := by cbv
    cases hdescribed.symm.trans hs

end Pass
end SchemaSdl
