import SchemaSdl.Proofs.Acceptance
import SchemaSdl.Selection

/-! Passes whose tests may fail. As long as no test fails, a pass goes as it would with a predicate in their place.
The first failure ends it, after the definitions before have been converted. -/

namespace SchemaSdl

namespace Selector

/-- Whether the tests pass a name without failing. -/
def chooses (selector : Selector) (name : String) : Bool :=
  match selector.selects name with
  | .ok choice => choice
  | .error _ => false

/-- A test fails only through a pattern that cannot be decided. -/
def BlamesPatterns (selector : Selector) : Prop :=
  ∀ name fault, selector.selects name = .error fault → ∃ cause, fault = .invalidFilter cause

theorem chooses_iff {selector : Selector} {name : String} :
    selector.chooses name = true ↔ selector.selects name = .ok true := by
  rw [chooses]
  cases selector.selects name with
  | ok choice => simp
  | error fault => simp

/-- A selector comes to a choice for every name of a list, or there is a first name for which it does not. -/
theorem exists_first_fault (selector : Selector) (members : Members (Option Node)) :
    (∀ member ∈ members, selector.selects member.1 = .ok (selector.chooses member.1)) ∨
    ∃ before name slot after fault, members = before ++ (name, slot) :: after ∧
      (∀ member ∈ before, selector.selects member.1 = .ok (selector.chooses member.1)) ∧
      selector.selects name = .error fault := by
  induction members with
  | nil => exact Or.inl nofun
  | cons member rest ih =>
    obtain ⟨name, slot⟩ := member
    cases hselects : selector.selects name with
    | error fault => exact Or.inr ⟨[], name, slot, rest, fault, rfl, nofun, hselects⟩
    | ok choice =>
      have hname : selector.selects name = .ok (selector.chooses name) := by rw [chooses, hselects]
      rcases ih with hall | ⟨before, failing, slot', after, fault, rfl, hbefore, hfault⟩
      · exact Or.inl (List.forall_mem_cons.mpr ⟨hname, hall⟩)
      · exact Or.inr ⟨(name, slot) :: before, failing, slot', after, fault, rfl,
          List.forall_mem_cons.mpr ⟨hname, hbefore⟩, hfault⟩

end Selector

/-- A selector that fails on a name has a test that does. -/
theorem Selector.exists_test_of_fault {selector : Selector} {name : String} {fault : Fault}
    (h : selector.selects name = .error fault) :
    ∃ test, (selector.filter = some test ∨ selector.exclude = some test) ∧ test name = .error fault := by
  have hnot (test : String → Except Fault Bool) (h : (do return !(← test name)) = Except.error fault) :
      test name = .error fault := by
    cases htest : test name with
    | error cause =>
      rw [htest] at h
      exact h
    | ok found =>
      rw [htest] at h
      cases h
  obtain ⟨_ | first, exclude⟩ := selector
  · cases exclude with
    | none => cases h
    | some second => exact ⟨second, Or.inr rfl, hnot second h⟩
  · cases hfirst : first name with
    | error cause =>
      simp only [selects, hfirst] at h
      exact ⟨first, Or.inl rfl, hfirst.trans h⟩
    | ok passes =>
      simp only [selects, hfirst] at h
      -- The second test is only made of a name that passes the first.
      cases passes with
      | false => cases h
      | true =>
        cases exclude with
        | none => cases h
        | some second => exact ⟨second, Or.inr rfl, hnot second h⟩

namespace Selection
variable {selection : Selection} {pattern : Option String} {name : String} {fault : Fault}

theorem fault_of_test {test : String → Except Fault Bool} (hmade : Selection.test pattern = .ok (some test))
    (h : test name = .error fault) : ∃ cause, fault = .invalidFilter cause := by
  cases pattern with
  | none => cases hmade
  | some text =>
    rw [Selection.test] at hmade
    split at hmade
    · cases hmade
    · split at hmade
      · cases hmade
      · rename_i compiled hcompiled
        cases hmade
        cases hoccurs : compiled.occursIn name with
        | error cause =>
          simp only [hoccurs, Except.mapError] at h
          exact ⟨cause, (Except.error.inj h).symm⟩
        | ok found =>
          simp only [hoccurs, Except.mapError] at h
          cases h

theorem fault_of_pattern (h : Selection.test pattern = .error fault) : ∃ cause, fault = .invalidFilter cause := by
  cases pattern with
  | none => cases h
  | some text =>
    rw [Selection.test] at h
    split at h
    · cases h
    · split at h
      · rename_i cause hcause
        exact ⟨cause, (Except.error.inj h).symm⟩
      · cases h

/-- The selector of a selection has the tests of its patterns. Where there is none, a pattern is not one. -/
theorem selector_cases (selection : Selection) :
    (∃ filter exclude, Selection.test selection.filter = .ok filter ∧ Selection.test selection.exclude = .ok exclude ∧
      selection.selector = .ok ⟨filter, exclude⟩) ∨
    ∃ cause, selection.selector = .error (.invalidFilter cause) := by
  rw [selector]
  cases hfilter : Selection.test selection.filter with
  | error fault =>
    obtain ⟨cause, rfl⟩ := fault_of_pattern hfilter
    exact Or.inr ⟨cause, rfl⟩
  | ok filter =>
    cases hexclude : Selection.test selection.exclude with
    | error fault =>
      obtain ⟨cause, rfl⟩ := fault_of_pattern hexclude
      exact Or.inr ⟨cause, rfl⟩
    | ok exclude => exact Or.inl ⟨filter, exclude, rfl, rfl, rfl⟩

/-- The tests that patterns make fail only through those patterns. -/
theorem blamesPatterns {selector : Selector} (h : selection.selector = .ok selector) : selector.BlamesPatterns := by
  intro name fault hselects
  rcases selector_cases selection with ⟨filter, exclude, hfilter, hexclude, hmade⟩ | ⟨cause, hmade⟩
  · obtain rfl := Except.ok.inj (hmade.symm.trans h)
    obtain ⟨test, htest | htest, hfault⟩ := Selector.exists_test_of_fault hselects
    · exact fault_of_test (hfilter.trans (congrArg Except.ok htest)) hfault
    · exact fault_of_test (hexclude.trans (congrArg Except.ok htest)) hfault
  · rw [hmade] at h
    cases h

end Selection

/-- A conversion that goes on to fail registers what it does. -/
theorem Conversion.Registers.bind_throw {α : Type} {c : Conversion α} {es : List Entry} {o : Except Fault α}
    (hc : c.Registers es o) (β : Type) (fault : Fault) :
    (c >>= fun _ => throw fault : Conversion β).Registers es (o.bind fun _ => .error fault) := by
  cases o with
  | error cause => exact hc.bind_error
  | ok a =>
    have hall : (c >>= fun _ => throw fault : Conversion β).Registers (es ++ []) (.error fault) :=
      hc.bind registers_throw
    rwa [List.append_nil] at hall

namespace Pass
open Conversion Selector
variable {pass : Pass} {selector : Selector} {converter : Converter} {before after members : Members (Option Node)}
  {name : String} {slot : Option Node} {fault : Fault} {registry : Registry}

/-! ### The definitions that come to be tested -/

theorem convertSelected_of_choices
    (h : ∀ member ∈ members, selector.selects member.1 = .ok (selector.chooses member.1)) :
    convertSelected converter selector members =
      convertSelected converter (ofPredicates (some selector.chooses) none) members := by
  induction members with
  | nil => rfl
  | cons member rest ih =>
    obtain ⟨name, slot⟩ := member
    obtain ⟨hname, hrest⟩ := List.forall_mem_cons.mp h
    simp only [convertSelected, hname, selects_ofPredicates, ih hrest, selected, Option.all_some, Option.any_none,
      Bool.not_false, Bool.and_true]

theorem convertSelected_of_fault
    (hbefore : ∀ member ∈ before, selector.selects member.1 = .ok (selector.chooses member.1))
    (hfault : selector.selects name = .error fault) :
    convertSelected converter selector (before ++ (name, slot) :: after) =
      convertSelected converter (ofPredicates (some selector.chooses) none) before >>= fun _ => throw fault := by
  induction before with
  | nil =>
    simp only [List.nil_append, convertSelected, hfault]
    rfl
  | cons member rest ih =>
    obtain ⟨first, slot'⟩ := member
    obtain ⟨hfirst, hrest⟩ := List.forall_mem_cons.mp hbefore
    rw [List.cons_append, convertSelected, convertSelected, hfirst, selects_ofPredicates]
    simp only [selected, Option.all_some, Option.any_none, Bool.not_false, Bool.and_true, ih hrest]
    cases selector.chooses first with
    | false => rfl
    | true =>
      simp only [bind_assoc, pure_bind]
      rfl

theorem conversion_of_choices (h : ∀ member ∈ pass.document.definitions.members,
    selector.selects member.1 = .ok (selector.chooses member.1)) :
    pass.conversion selector = pass.conversion (ofPredicates (some selector.chooses) none) := by
  rw [conversion, conversion, convertSelected_of_choices h]

/-- A pass whose test fails registers what stands before, and then fails as the test does if nothing else has. -/
theorem conversion_registers_of_fault
    (hmembers : pass.document.definitions.members = before ++ (name, slot) :: after)
    (hbefore : ∀ member ∈ before, selector.selects member.1 = .ok (selector.chooses member.1))
    (hfault : selector.selects name = .error fault) :
    (pass.conversion selector).Registers
      (pass.converter.survey ((rootsOf (some selector.chooses) none before).flatMap Place.tree)).1
      ((pass.converter.survey ((rootsOf (some selector.chooses) none before).flatMap Place.tree)).2.bind fun _ =>
        .error fault) := by
  have hselected : (convertSelected pass.converter (ofPredicates (some selector.chooses) none) before).Registers _ _ :=
    convertSelected_registers
  rw [conversion, hmembers, convertSelected_of_fault hbefore hfault, bind_assoc]
  have hthrown := hselected.bind_throw Unit fault
  rcases hs : (pass.converter.survey ((rootsOf (some selector.chooses) none before).flatMap Place.tree)).2 with
    cause | ⟨⟩
  all_goals
    rw [hs] at hthrown
    exact hthrown

/-- A pass that succeeds has made all its tests, and none of them has failed. -/
theorem registry_of_choices (h : pass.registry selector = .ok registry) :
    pass.registry (ofPredicates (some selector.chooses) none) = .ok registry := by
  rcases exists_first_fault selector pass.document.definitions.members with
    hchoices | ⟨before, name, slot, after, fault, hmembers, hbefore, hfault⟩
  · rw [Pass.registry, run, ← conversion_of_choices hchoices]
    exact h
  · obtain ⟨hok, -⟩ := (registry_eq_ok_iff (conversion_registers_of_fault hmembers hbefore hfault)).mp h
    cases hs : (pass.converter.survey ((rootsOf (some selector.chooses) none before).flatMap Place.tree)).2 with
    | error cause =>
      rw [hs] at hok
      cases hok
    | ok done =>
      rw [hs] at hok
      cases hok

/-! ### Places that a pass comes to -/

/-- A place lies in the inline tree of a definition that the selector selects. -/
def Reaches (pass : Pass) (selector : Selector) (place : Place) : Prop :=
  ∃ member ∈ pass.document.definitions.members, selector.selects member.1 = .ok true ∧
    Place.Inline ⟨⟨member.1, []⟩, member.2, false⟩ place

theorem reaches_iff {place : Place} :
    pass.Reaches selector place ↔ pass.Inline (some selector.chooses) none place := by
  constructor
  · rintro ⟨member, hmember, hselects, hinline⟩
    refine ⟨_, List.mem_map.mpr ⟨member, List.mem_filter.mpr ⟨hmember, ?_⟩, rfl⟩, hinline⟩
    simp [selected, chooses_iff.mpr hselects]
  · rintro ⟨root, hroot, hinline⟩
    obtain ⟨member, hmember, rfl⟩ := List.mem_map.mp hroot
    obtain ⟨hmember, hselected⟩ := List.mem_filter.mp hmember
    refine ⟨member, hmember, chooses_iff.mp ?_, hinline⟩
    simpa [selected] using hselected

theorem Reaches.mem_places {place : Place} (h : pass.Reaches selector place) :
    place ∈ pass.places (some selector.chooses) none :=
  mem_places_iff.mpr (reaches_iff.mp h)

theorem Reaches.inline {place lower : Place} (h : pass.Reaches selector place) (hlower : place.Inline lower) :
    pass.Reaches selector lower := by
  obtain ⟨member, hmember, hselects, hinline⟩ := h
  exact ⟨member, hmember, hselects, hinline.trans hlower⟩

/-- A pass comes to no two places at one path. -/
theorem Reaches.eq_of_path {p q : Place} (hp : pass.Reaches selector p) (hq : pass.Reaches selector q)
    (h : p.path = q.path) : p = q :=
  List.inj_on_of_nodup_map (nodup_paths pass _ _) hp.mem_places hq.mem_places h

theorem Reaches.sound {place : Place} (h : pass.Reaches selector place) : place.Sound := by
  obtain ⟨⟨name, slot⟩, hmember, -, hinline⟩ := h
  induction hinline with
  | root =>
    rintro node ⟨⟩
    exact pass.document.definitions.wellFormed name node hmember
  | step _ hlower ih => exact ih.child hlower

section Definition
variable {definition : Node} (hdefinition : pass.document.get? name = some definition)
include hdefinition

theorem reaches_definition (hselects : selector.selects name = .ok true) :
    pass.Reaches selector ⟨⟨name, []⟩, some definition, false⟩ :=
  ⟨(name, some definition), Document.mem_of_get? hdefinition, hselects, .root⟩

/-- Only a definition itself stands at its path. -/
theorem Reaches.eq_definition {place : Place} (h : pass.Reaches selector place) (hpath : place.path = ⟨name, []⟩) :
    selector.selects name = .ok true ∧ place = ⟨⟨name, []⟩, some definition, false⟩ := by
  have ⟨⟨first, slot⟩, _, hselects, hinline⟩ := h
  have hfirst : place.path.root = first := Place.root_of_mem_tree (Place.mem_tree_iff.mpr hinline)
  rw [hpath] at hfirst
  subst hfirst
  exact ⟨hselects, h.eq_of_path (reaches_definition hdefinition hselects) hpath⟩

end Definition

/-! ### The types of a pass that succeeds -/

section Success
variable {entry : Entry} {place : Place} (h : pass.registry selector = .ok registry)
include h

theorem entries_eq : registry.entries = (pass.places (some selector.chooses) none).filterMap pass.converter.typeAt? := by
  obtain ⟨-, -, rfl⟩ := registry_eq_ok_iff_admitted.mp (registry_of_choices h)
  rfl

theorem nodup_keys : registry.keys.Nodup := by
  obtain ⟨-, hnodup, rfl⟩ := registry_eq_ok_iff_admitted.mp (registry_of_choices h)
  exact hnodup

theorem exists_place (hentry : entry ∈ registry.entries) :
    ∃ place, pass.Reaches selector place ∧ pass.converter.typeAt? place = some entry := by
  rw [entries_eq h] at hentry
  obtain ⟨place, hplace, htype⟩ := List.mem_filterMap.mp hentry
  exact ⟨place, reaches_iff.mpr (mem_places_iff.mp hplace), htype⟩

theorem mem_entries (hplace : pass.Reaches selector place) (htype : pass.converter.typeAt? place = some entry) :
    entry ∈ registry.entries := by
  rw [entries_eq h]
  exact List.mem_filterMap.mpr ⟨place, hplace.mem_places, htype⟩

theorem exists_field (hplace : pass.Reaches selector place) : ∃ field, pass.converter.field place = .ok field := by
  obtain ⟨hadmitted, -, -⟩ := registry_eq_ok_iff_admitted.mp (registry_of_choices h)
  exact Converter.exists_field_of_admitted fun q hq =>
    hadmitted q (hplace.inline (Place.mem_tree_iff.mp hq)).mem_places

/-- Where an enumeration or a composite stands, its type is registered. -/
theorem exists_entry (hplace : pass.Reaches selector place) (hdeclares : place.declaresType = true) :
    ∃ entry ∈ registry.entries, pass.converter.typeAt? place = some entry ∧ pass.converter.Declares place entry := by
  have hsome : (pass.converter.typeAt? place).isSome = true := by rw [Converter.isSome_typeAt?, hdeclares]
  obtain ⟨entry, htype⟩ := Option.isSome_iff_exists.mp hsome
  refine ⟨entry, mem_entries h hplace htype, htype, Converter.declares_of_typeAt? htype fun lower hlower => ?_⟩
  exact exists_field h (hplace.inline (.step .root hlower))

/-- A definition has a type of its own if it is selected and is an enumeration or a composite. -/
theorem exists_path_iff {definition : Node} (hdefinition : pass.document.get? name = some definition) :
    (∃ entry ∈ registry.entries, entry.path = ⟨name, []⟩) ↔
      selector.selects name = .ok true ∧ definition.shape.declaresType = true := by
  constructor
  · rintro ⟨entry, hentry, hpath⟩
    obtain ⟨place, hplace, htype⟩ := exists_place h hentry
    have hplacePath : place.path = ⟨name, []⟩ := (Converter.path_of_typeAt? htype).symm.trans hpath
    obtain ⟨hselects, rfl⟩ := hplace.eq_definition hdefinition hplacePath
    exact ⟨hselects, Converter.declaresType_of_typeAt? htype⟩
  · rintro ⟨hselects, hdeclares⟩
    obtain ⟨entry, hentry, htype, -⟩ := exists_entry h (reaches_definition hdefinition hselects) hdeclares
    exact ⟨entry, hentry, Converter.path_of_typeAt? htype⟩

/-- A type is found under its name. -/
theorem get?_key (hentry : entry ∈ registry.entries) : registry.get? entry.key = some entry :=
  (Registry.get?_eq_some_iff (nodup_keys h)).mpr ⟨hentry, rfl⟩

theorem get?_eq_some_iff : registry.get? name = some entry ↔ entry ∈ registry.entries ∧ entry.key = name :=
  Registry.get?_eq_some_iff (nodup_keys h)

end Success

end Pass
end SchemaSdl
