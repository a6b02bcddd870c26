import SchemaSdl.Proofs.Testing

/-! Two passes side by side. Where the places of one correspond to those of the other, one place to one, with fields
and types that correspond too, both passes end alike: with one fault, or with registries of corresponding types. -/

namespace SchemaSdl

/-! ### Registries -/

namespace Registry
variable {registry : Registry} {g : Entry → Entry} {key : String}

/-- Every type changed in the same way. -/
def map (g : Entry → Entry) (registry : Registry) : Registry := ⟨registry.entries.map g⟩

section
variable (hg : ∀ e, (g e).path = e.path)
include hg

theorem key_of_path (e : Entry) : (g e).key = e.key := by rw [Entry.key, hg, Entry.key]

theorem keys_map : (registry.map g).keys = registry.keys := by
  rw [keys, map, List.map_map, keys]
  exact List.map_congr_left fun e _ => key_of_path hg e

theorem get?_map : (registry.map g).get? key = (registry.get? key).map g := by
  rw [get?, map, List.find?_map, get?]
  simp only [Function.comp_def, key_of_path hg]

theorem registerAll_map (es : List Entry) : (registry.map g).registerAll (es.map g) =
    ((registry.registerAll es).1.map g, (registry.registerAll es).2.map (Prod.map g g)) := by
  induction es generalizing registry with
  | nil => rfl
  | cons e rest ih =>
    simp only [List.map_cons, registerAll, register, get?_map hg, key_of_path hg]
    cases registry.get? e.key with
    | some held => rfl
    | none =>
      have happend : (⟨(registry.map g).entries ++ [g e]⟩ : Registry) = map g ⟨registry.entries ++ [e]⟩ := by
        simp [map]
      simp only [Option.map_none, happend, ih]

end

end Registry

theorem Conversion.outcome_map {α : Type} {g : Entry → Entry} (hg : ∀ e, (g e).path = e.path)
    (collision : Option (Entry × Entry)) (o : Except Fault α) :
    outcome (collision.map (Prod.map g g)) o = outcome collision o := by
  cases collision with
  | none => rfl
  | some pair => simp [outcome, hg]

/-! ### Places -/

theorem Place.tree_of_children {place : Place → Place} (h : ∀ p, (place p).children = p.children.map place) (p : Place) :
    (place p).tree = p.tree.map place := by
  induction p using Place.tree_induction with
  | step p ih =>
    rw [tree_eq, tree_eq, h, List.flatMap_map, List.map_append, List.map_flatMap, List.map_singleton]
    congr 1
    exact List.flatMap_congr ih

namespace Converter

/-- A field depends on the document through what stands under each name, and not on the root name. -/
theorem field_congr {c d : Converter} (h : ∀ name, c.document.get? name = d.document.get? name) (place : Place) :
    c.field place = d.field place := by
  induction place using Place.tree_induction with
  | step place ih =>
    cases hslot : place.slot with
    | none => rw [field_of_none hslot, field_of_none hslot]
    | some node =>
      rw [field_of_some hslot, field_of_some hslot]
      cases hshape : node.shape with
      | reference target list => exact Document.settle_congr h
      | inlineArray items => simp only [ih (.items place.path items) (by simp [Place.children, hslot, hshape])]
      | _ => rfl

theorem fieldsOf_congr {c d : Converter} (h : ∀ name, c.document.get? name = d.document.get? name) :
    c.fieldsOf = d.fieldsOf := by
  funext places
  simp only [fieldsOf, field_congr h]

/-- What one conversion comes to at a place, the other comes to at the corresponding place. -/
structure Corresponds (c d : Converter) (place : Place → Place) (field : Field → Field) (entry : Entry → Entry) :
    Prop where
  children : ∀ p, (place p).children = p.children.map place
  field_eq : ∀ p, d.field (place p) = (c.field p).map field
  typeAt?_eq : ∀ p, d.typeAt? (place p) = (c.typeAt? p).map entry
  path_eq : ∀ e, (entry e).path = e.path

variable {c d : Converter} {place : Place → Place} {field : Field → Field} {entry : Entry → Entry}

theorem Corresponds.survey_eq (h : Corresponds c d place field entry) (places : List Place) :
    d.survey (places.map place) = ((c.survey places).1.map entry, (c.survey places).2) := by
  induction places with
  | nil => rfl
  | cons p rest ih =>
    simp only [List.map_cons, survey, h.field_eq, h.typeAt?_eq, ih]
    cases c.field p with
    | error fault => rfl
    | ok f => cases c.typeAt? p <;> rfl

theorem Corresponds.survey_trees (h : Corresponds c d place field entry) (roots : List Place) :
    d.survey ((roots.map place).flatMap Place.tree) =
      ((c.survey (roots.flatMap Place.tree)).1.map entry, (c.survey (roots.flatMap Place.tree)).2) := by
  rw [← h.survey_eq, List.flatMap_map, List.map_flatMap]
  congr 1
  exact List.flatMap_congr fun p _ => Place.tree_of_children h.children p

end Converter

/-! ### Passes -/

/-- A place with another node at it. -/
def Place.onSlot (slot : Option Node → Option Node) (place : Place) : Place := { place with slot := slot place.slot }

namespace Pass
open Conversion Selector
variable {pass : Pass} {selector : Selector} {slot : Option Node → Option Node} {field : Field → Field}
  {entry : Entry → Entry}

theorem rootsOf_onSlot {filter exclude : Option (String → Bool)} (members : Members (Option Node)) :
    rootsOf filter exclude (members.map fun member => (member.1, slot member.2)) =
      (rootsOf filter exclude members).map (Place.onSlot slot) := by
  rw [rootsOf, rootsOf, List.filter_map, List.map_map, List.map_map]
  rfl

/-- What a pass comes to, told by the types that it registers and its outcome. -/
theorem registry_eq {es : List Entry} {o : Except Fault Unit} (hc : (pass.conversion selector).Registers es o) :
    pass.registry selector =
      (outcome (Registry.empty.registerAll es).2 o).map fun _ => (Registry.empty.registerAll es).1 := by
  obtain ⟨notices, hrun⟩ := hc {}
  rw [Pass.registry, run, hrun]
  cases outcome (Registry.empty.registerAll es).2 o <;> rfl

theorem registry_map_of_registers {other : Pass} {es : List Entry} {o : Except Fault Unit}
    (hentry : ∀ e, (entry e).path = e.path) (hc : (pass.conversion selector).Registers es o)
    (hd : (other.conversion selector).Registers (es.map entry) o) :
    other.registry selector = (pass.registry selector).map (Registry.map entry) := by
  have hempty : Registry.empty = Registry.empty.map entry := rfl
  rw [registry_eq hc, registry_eq hd, hempty, Registry.registerAll_map hentry, outcome_map hentry, ← hempty]
  cases outcome (Registry.empty.registerAll es).2 o <;> rfl

/-- If conversions correspond, so do passes over documents whose definitions correspond, whatever the tests. -/
theorem registry_of_corresponds {other : Pass}
    (h : Converter.Corresponds pass.converter other.converter (Place.onSlot slot) field entry)
    (hmembers : other.document.definitions.members =
      pass.document.definitions.members.map fun member => (member.1, slot member.2)) :
    other.registry selector = (pass.registry selector).map (Registry.map entry) := by
  rcases exists_first_fault selector pass.document.definitions.members with
    hchoices | ⟨before, name, node, after, fault, hbefore, hchoices, hfault⟩
  -- Every test gives an answer, and the answers are the same for both, since they are about names.
  · have hothers : ∀ member ∈ other.document.definitions.members,
        selector.selects member.1 = .ok (selector.chooses member.1) := by
      rw [hmembers, List.forall_mem_map]
      exact hchoices
    have hd : (other.conversion (ofPredicates (some selector.chooses) none)).Registers _ _ := conversion_registers other
    rw [places, roots, hmembers, rootsOf_onSlot, h.survey_trees, ← conversion_of_choices hothers] at hd
    have hc : (pass.conversion (ofPredicates (some selector.chooses) none)).Registers _ _ := conversion_registers pass
    rw [← conversion_of_choices hchoices] at hc
    exact registry_map_of_registers h.path_eq hc hd
  -- A test fails. Both passes come to the same definition, with what is before it converted.
  · have hothers : ∀ member ∈ before.map (fun member : String × Option Node => (member.1, slot member.2)),
        selector.selects member.1 = .ok (selector.chooses member.1) := by
      rw [List.forall_mem_map]
      exact hchoices
    rw [hbefore, List.map_append, List.map_cons] at hmembers
    have hd := conversion_registers_of_fault hmembers hothers hfault
    rw [rootsOf_onSlot, h.survey_trees] at hd
    exact registry_map_of_registers h.path_eq (conversion_registers_of_fault hbefore hchoices hfault) hd

end Pass
end SchemaSdl
