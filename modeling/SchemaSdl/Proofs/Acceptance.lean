import Mathlib
import SchemaSdl.Pass
import SchemaSdl.Proofs.Declaration

/-! When a pass succeeds and what it registers. A pass surveys the inline trees of the selected definitions, in the
order of the document. -/

namespace SchemaSdl

/-! ### Selection by predicates -/

namespace Selector

/-- Tests that do not fail. -/
def ofPredicates (filter exclude : Option (String → Bool)) : Selector :=
  ⟨filter.map fun test name => .ok (test name), exclude.map fun test name => .ok (test name)⟩

/-- Whether a name is selected by such tests: it passes the first, if any, and fails the second, if any. -/
def selected (filter exclude : Option (String → Bool)) (name : String) : Bool :=
  filter.all (· name) && !exclude.any (· name)

theorem selects_ofPredicates {filter exclude : Option (String → Bool)} {name : String} :
    (ofPredicates filter exclude).selects name = .ok (selected filter exclude name) := by
  cases filter with
  | none => cases exclude <;> rfl
  | some test =>
    simp only [selects, ofPredicates, selected, Option.map_some, Option.all_some]
    cases test name <;> cases exclude <;> rfl

end Selector

theorem Document.mem_of_get? {document : Document} {name : String} {node : Node}
    (h : document.get? name = some node) : (name, some node) ∈ document.definitions.members := by
  obtain ⟨before, after, hmembers, -⟩ := List.lookup_eq_some_iff.mp (Option.join_eq_some_iff.mp h)
  rw [hmembers]
  exact List.mem_append_right _ List.mem_cons_self

namespace Pass
open Conversion Selector
variable {filter exclude : Option (String → Bool)}

/-! ### Places of a pass -/

/-- The places of the selected ones of some definitions. -/
def rootsOf (filter exclude : Option (String → Bool)) (members : Members (Option Node)) : List Place :=
  (members.filter fun member => selected filter exclude member.1).map fun member => ⟨⟨member.1, []⟩, member.2, false⟩

theorem rootsOf_cons {name : String} {slot : Option Node} {rest : Members (Option Node)} :
    rootsOf filter exclude ((name, slot) :: rest) = if selected filter exclude name then
      ⟨⟨name, []⟩, slot, false⟩ :: rootsOf filter exclude rest else rootsOf filter exclude rest := by
  rw [rootsOf, List.filter_cons]
  cases selected filter exclude name <;> rfl

theorem rootsOf_append {before after : Members (Option Node)} :
    rootsOf filter exclude (before ++ after) = rootsOf filter exclude before ++ rootsOf filter exclude after := by
  simp [rootsOf]

def roots (pass : Pass) (filter exclude : Option (String → Bool)) : List Place :=
  rootsOf filter exclude pass.document.definitions.members

/-- The places of their inline trees, each after those below it. -/
def places (pass : Pass) (filter exclude : Option (String → Bool)) : List Place :=
  (pass.roots filter exclude).flatMap Place.tree

/-- A place lies in the inline tree of a selected definition. -/
def Inline (pass : Pass) (filter exclude : Option (String → Bool)) (place : Place) : Prop :=
  ∃ root ∈ pass.roots filter exclude, root.Inline place

theorem Inline.child {pass : Pass} {upper lower : Place} (h : pass.Inline filter exclude upper)
    (hlower : lower ∈ upper.children) : pass.Inline filter exclude lower := by
  obtain ⟨root, hroot, hinline⟩ := h
  exact ⟨root, hroot, .step hinline hlower⟩

theorem mem_places_iff {pass : Pass} {place : Place} :
    place ∈ pass.places filter exclude ↔ pass.Inline filter exclude place := by
  simp only [places, List.mem_flatMap, Place.mem_tree_iff, Inline]

theorem nodup_paths (pass : Pass) (filter exclude : Option (String → Bool)) :
    ((pass.places filter exclude).map Place.path).Nodup := by
  refine Place.nodup_paths_flatMap (n := 1) (fun p hp => ?_) ?_ fun p hp => ?_
  · obtain ⟨member, -, rfl⟩ := List.mem_map.mp hp
    rfl
  · rw [roots, rootsOf, List.map_map]
    have hdistinct : (pass.document.definitions.members.map Prod.fst).Nodup := pass.document.definitions.distinct
    have hselected := hdistinct.sublist (List.Sublist.map Prod.fst
      (List.filter_sublist (p := fun member => selected filter exclude member.1)))
    have hinjective : Function.Injective fun name : String => (⟨name, []⟩ : TypePath) := fun m n h =>
      (TypePath.mk.inj h).1
    have hpaths := hselected.map hinjective
    rwa [List.map_map] at hpaths
  · obtain ⟨member, hmember, rfl⟩ := List.mem_map.mp hp
    refine Place.Sound.nodup_paths fun node hnode => pass.document.definitions.wellFormed member.1 node ?_
    rw [← show member.2 = some node from hnode]
    exact (List.mem_filter.mp hmember).1

/-! ### The run of a pass -/

theorem convertSelected_registers {converter : Converter} {members : Members (Option Node)} :
    (convertSelected converter (ofPredicates filter exclude) members).Registers
      (converter.survey ((rootsOf filter exclude members).flatMap Place.tree)).1
      ((converter.survey ((rootsOf filter exclude members).flatMap Place.tree)).2.map fun _ =>
        (rootsOf filter exclude members).length) := by
  induction members with
  | nil => exact registers_pure
  | cons member rest ih =>
    obtain ⟨name, slot⟩ := member
    rw [convertSelected, selects_ofPredicates, rootsOf_cons]
    cases hselected : selected filter exclude name with
    | false => exact ih
    | true =>
      have hconvert : converter.Converts (converter.convert name slot none []) ⟨⟨name, []⟩, slot, false⟩ :=
        Converter.convert_converts
      rw [Converter.Converts] at hconvert
      simp only [↓reduceIte, List.flatMap_cons, List.length_cons]
      rw [Converter.survey_append]
      rcases hs : converter.survey (Place.tree ⟨⟨name, []⟩, slot, false⟩) with ⟨es, fault | ⟨⟩⟩
      · rw [hs] at hconvert
        exact hconvert.bind_error
      · obtain ⟨field, hfield⟩ := Converter.survey_eq_ok_iff.mp (congrArg Prod.snd hs) _ (Place.self_mem_tree _)
        rw [hs, Converter.fragment, hfield] at hconvert
        have hall := hconvert.bind (k := fun _ => do
          return (← convertSelected converter (ofPredicates filter exclude) rest) + 1) ih.map
        convert hall using 1
        rcases (converter.survey ((rootsOf filter exclude rest).flatMap Place.tree)).2 with _ | _ <;> rfl

theorem conversion_registers (pass : Pass) : (pass.conversion (ofPredicates filter exclude)).Registers
    (pass.converter.survey (pass.places filter exclude)).1 (pass.converter.survey (pass.places filter exclude)).2 := by
  let members := pass.document.definitions.members
  have hselected : (convertSelected pass.converter (ofPredicates filter exclude) members).Registers _ _ :=
    convertSelected_registers
  -- What comes after the selected definitions gives a notice and no more.
  have hnotice (n : Nat) : Registers (do
      let walk ← getThe Walk
      note (.converted n walk.registry.size)) [] (.ok ()) := fun walk => ⟨_, rfl⟩
  rw [conversion, places, roots]
  rcases hs : pass.converter.survey ((rootsOf filter exclude members).flatMap Place.tree) with ⟨es, fault | ⟨⟩⟩
  · rw [hs] at hselected
    exact hselected.bind_error
  · rw [hs] at hselected
    have hall := hselected.bind (k := fun n => do
      let walk ← getThe Walk
      note (.converted n walk.registry.size)) (hnotice _)
    rwa [List.append_nil] at hall

/-- A pass succeeds if its conversion does and registers no two types of one name. -/
theorem registry_eq_ok_iff {pass : Pass} {selector : Selector} {es : List Entry} {o : Except Fault Unit}
    (hc : (pass.conversion selector).Registers es o) {registry : Registry} :
    pass.registry selector = .ok registry ↔ o = .ok () ∧ (es.map Entry.key).Nodup ∧ registry = ⟨es⟩ := by
  have hfresh : Registry.empty.Fresh es ↔ (es.map Entry.key).Nodup := by
    simp [Registry.Fresh, Registry.empty, Registry.keys]
  rw [Pass.registry, run, ← hfresh]
  by_cases h : Registry.empty.Fresh es
  · obtain ⟨ho, hregistry⟩ := hc.run_of_fresh {} h
    rcases hrun : (pass.conversion selector).run.run {} with ⟨fault | ⟨⟩, walk⟩ <;> rw [hrun] at ho hregistry
    · simp [← ho]
    · obtain rfl : o = .ok () := ho.symm
      have hwalk : walk.registry = ⟨es⟩ := hregistry
      simp only [hwalk, h, Except.ok.injEq, true_and]
      exact eq_comm
  · obtain ⟨before, e, after, held, rfl, hbefore, hheld⟩ := Registry.exists_held_of_not_fresh h
    obtain ⟨ho, -⟩ := hc.run_of_held {} hbefore hheld
    rcases hrun : (pass.conversion selector).run.run {} with ⟨fault | ⟨⟩, walk⟩ <;> rw [hrun] at ho
    · simp [h]
    · cases ho

/-- A pass succeeds if all places are admitted and no two of their types have one name, and then those are its types. -/
theorem registry_eq_ok_iff_admitted {pass : Pass} {registry : Registry} :
    pass.registry (ofPredicates filter exclude) = .ok registry ↔
      (∀ place ∈ pass.places filter exclude, place.Admitted pass.document) ∧
      (((pass.places filter exclude).filterMap pass.converter.typeAt?).map Entry.key).Nodup ∧
      registry = ⟨(pass.places filter exclude).filterMap pass.converter.typeAt?⟩ := by
  have hadmitted : (pass.converter.survey (pass.places filter exclude)).2 = .ok () ↔
      ∀ place ∈ pass.places filter exclude, place.Admitted pass.document := Converter.survey_trees_eq_ok_iff
  rw [registry_eq_ok_iff (conversion_registers pass), ← hadmitted]
  refine and_congr_right fun hok => ?_
  rw [Converter.survey_of_ok hok]

theorem nodup_keys_iff {pass : Pass} :
    (((pass.places filter exclude).filterMap pass.converter.typeAt?).map Entry.key).Nodup ↔
      ∀ p q, pass.Inline filter exclude p → pass.Inline filter exclude q → p.declaresType → q.declaresType →
        p.path.joined = q.path.joined → p = q := by
  have hnodup : ((pass.places filter exclude).filter Place.declaresType).Nodup :=
    (nodup_paths pass filter exclude).of_map.filter _
  rw [Converter.keys_filterMap_typeAt?, List.nodup_map_iff_inj_on hnodup]
  simp only [List.mem_filter, mem_places_iff]
  constructor
  · intro h p q hp hq hpd hqd heq
    exact h p ⟨hp, hpd⟩ q ⟨hq, hqd⟩ heq
  · rintro h p ⟨hp, hpd⟩ q ⟨hq, hqd⟩ heq
    exact h p q hp hq hpd hqd heq

/-- If all places are admitted, each place of a type has the type that it declares. -/
theorem declares_of_admitted {pass : Pass}
    (h : ∀ place ∈ pass.places filter exclude, place.Admitted pass.document) :
    List.Forall₂ pass.converter.Declares ((pass.places filter exclude).filter Place.declaresType)
      ((pass.places filter exclude).filterMap pass.converter.typeAt?) := by
  have hok : (pass.converter.survey (pass.places filter exclude)).2 = .ok () :=
    Converter.survey_trees_eq_ok_iff.mpr h
  refine Converter.forall₂_declares fun place hplace entry hentry => ?_
  refine Converter.declares_of_typeAt? hentry fun lower hlower => ?_
  exact Converter.survey_eq_ok_iff.mp hok lower (mem_places_iff.mpr ((mem_places_iff.mp hplace).child hlower))

/-! ### Acceptance and content -/

/-- Under tests that do not fail, a pass succeeds if and only if every node in the inline trees of the selected
definitions is there and has a shape, every reference among them leads along aliases, none of them twice, to a scalar
or to a definition that is no alias, and no two enumerations or composites among them flatten to one name. The
registry then holds the type declared at each of these, in the order of the places: definition after definition,
and each type after those inside it. That order comes to all these places, and to none of them twice. -/
theorem registry_ofPredicates (pass : Pass) (filter exclude : Option (String → Bool)) :
    ((∃ registry, pass.registry (ofPredicates filter exclude) = .ok registry) ↔
      (∀ place, pass.Inline filter exclude place → ∃ node, place.slot = some node ∧ node.shape ≠ .unmapped) ∧
      (∀ place node target list, pass.Inline filter exclude place → place.slot = some node →
        node.shape = .reference target list → ∃ chain, pass.document.Leads target chain ∧ chain.Nodup) ∧
      ∀ p q, pass.Inline filter exclude p → pass.Inline filter exclude q → p.declaresType → q.declaresType →
        p.path.joined = q.path.joined → p = q) ∧
    (∀ registry, pass.registry (ofPredicates filter exclude) = .ok registry →
      List.Forall₂ pass.converter.Declares ((pass.places filter exclude).filter Place.declaresType)
        registry.entries) ∧
    (∀ place, place ∈ pass.places filter exclude ↔ pass.Inline filter exclude place) ∧
    ((pass.places filter exclude).map Place.path).Nodup := by
  refine ⟨?_, fun registry hregistry => ?_, fun place => mem_places_iff, nodup_paths pass filter exclude⟩
  · constructor
    · rintro ⟨registry, hregistry⟩
      obtain ⟨hadmitted, hnodup, -⟩ := registry_eq_ok_iff_admitted.mp hregistry
      refine ⟨fun place hplace => ?_, fun place node target list hplace hslot hshape => ?_, nodup_keys_iff.mp hnodup⟩
      · obtain ⟨node, hslot, hmapped, -⟩ := hadmitted place (mem_places_iff.mpr hplace)
        exact ⟨node, hslot, hmapped⟩
      · obtain ⟨found, hfound, -, hreference⟩ := hadmitted place (mem_places_iff.mpr hplace)
        obtain rfl := Option.some.inj (hslot.symm.trans hfound)
        exact hreference target list hshape
    · rintro ⟨hmapped, hreference, hdistinct⟩
      refine ⟨_, registry_eq_ok_iff_admitted.mpr ⟨fun place hplace => ?_, nodup_keys_iff.mpr hdistinct, rfl⟩⟩
      have hinline := mem_places_iff.mp hplace
      obtain ⟨node, hslot, hshape⟩ := hmapped place hinline
      exact ⟨node, hslot, hshape, fun target list => hreference place node target list hinline hslot⟩
  · obtain ⟨hadmitted, -, rfl⟩ := registry_eq_ok_iff_admitted.mp hregistry
    exact declares_of_admitted hadmitted

/-! ### A fence, and a definition by the name that its hue has -/

def hue : SoundNode := Node.ofParts { values := some ["dark red"] }

def plank : SoundNode := Node.ofParts { values := some ["half-inch", "inch"] }

def fence : SoundNode := Node.ofParts
  { type := some "object",
    properties := some (Definitions.empty
      |>.put "hue" (some hue)
      |>.put "planks" (some (Node.ofParts { type := some "array", items := some plank }))),
    required := some ["hue"] }

def fences : Pass where
  document := ⟨Definitions.empty |>.put "Fence" (some fence) |>.put "Fence_hue" (some hue)⟩
  root := "Fence"
  template := none
  root_ne := by decide

def fencePlace : Place := ⟨⟨"Fence", []⟩, some fence.val, false⟩

def fenceHuePlace : Place := ⟨⟨"Fence", ["hue"]⟩, some hue.val, true⟩

def plankPlace : Place := ⟨⟨"Fence", ["planks", "planks"]⟩, some plank.val, false⟩

def huePlace : Place := ⟨⟨"Fence_hue", []⟩, some hue.val, false⟩

def fenceTypes : Registry :=
  ⟨[⟨⟨"Fence", ["hue"]⟩, none, true, .enum ["darkred"]⟩,
    ⟨⟨"Fence", ["planks", "planks"]⟩, none, false, .enum ["halfinch", "inch"]⟩,
    ⟨⟨"Fence", []⟩, none, false, .composite true
      [("hue", ⟨.named "Fence_hue", none, true⟩), ("planks", ⟨.list (.named "Fence_planks_planks"), none, false⟩)]⟩]⟩

theorem registry_fences : fences.registry (ofPredicates none (some (· = "Fence_hue"))) = .ok fenceTypes := by cbv

theorem places_fences : (fences.places none (some (· = "Fence_hue"))).filter Place.declaresType =
    [fenceHuePlace, plankPlace, fencePlace] := by cbv

theorem places_all_fences : (fences.places none none).filter Place.declaresType =
    [fenceHuePlace, plankPlace, fencePlace, huePlace] := by cbv

/-- Without the other definition the fence and what is in it become types under their joined names. With it the pass
fails, because two of these names are the same. -/
theorem registry_ofPredicates_fences :
    (fences.registry (ofPredicates none (some (· = "Fence_hue"))) = .ok fenceTypes ∧
      fenceTypes.keys = ["Fence_hue", "Fence_planks_planks", "Fence"] ∧
      List.Forall₂ fences.converter.Declares [fenceHuePlace, plankPlace, fencePlace] fenceTypes.entries) ∧
    fenceHuePlace.path.joined = huePlace.path.joined ∧
      ¬∃ registry, fences.registry (ofPredicates none none) = .ok registry := by
  obtain ⟨-, hcontent, -, -⟩ := registry_ofPredicates fences none (some (· = "Fence_hue"))
  obtain ⟨haccepts, -, hplaces, -⟩ := registry_ofPredicates fences none none
  have hjoined : fenceHuePlace.path.joined = huePlace.path.joined := by decide
  have hinline (place : Place) (h : place ∈ [fenceHuePlace, plankPlace, fencePlace, huePlace]) :
      fences.Inline none none place := by
    rw [← places_all_fences] at h
    exact (hplaces place).mp (List.mem_filter.mp h).1
  refine ⟨⟨registry_fences, by decide, ?_⟩, hjoined, ?_⟩
  · rw [← places_fences]
    exact hcontent fenceTypes registry_fences
  · rw [haccepts]
    rintro ⟨-, -, hdistinct⟩
    have hsame := hdistinct fenceHuePlace huePlace (hinline _ (by simp)) (hinline _ (by simp)) rfl rfl hjoined
    exact absurd (congrArg Place.path hsame) (by decide)

end Pass
end SchemaSdl
