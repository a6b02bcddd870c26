import Mathlib
import SchemaSdl.Proofs.Survey

/-! Sessions: any conversions and any single types, one after another, on one registry. Each step may fail, and the
next one goes on with what it left behind. Whatever the steps, no two types come to share a name, no type that is there
is touched, and what conversion adds is well made. -/

namespace SchemaSdl

/-- A type as conversion makes it: values without blanks and hyphens, or at least one field, and an interface exactly
under the root name. -/
def Entry.WellMade (root : String) (entry : Entry) : Prop :=
  match entry.body with
  | .enum values => ∀ value ∈ values, ∀ c ∈ value.toList, Text.isBlank c = false ∧ c ≠ '-'
  | .composite interface fields => fields ≠ [] ∧ (interface = true ↔ entry.key = root)

/-! ### Types that conversion makes -/

theorem mem_sanitized {value : String} {c : Char} (h : c ∈ (sanitized value).toList) :
    Text.isBlank c = false ∧ c ≠ '-' := by
  rw [sanitized, String.toList_ofList, List.mem_filter] at h
  simpa using h.2

namespace Converter
variable {converter : Converter}

theorem filled_ne_nil {fields : Members Field} : filled fields ≠ [] := by
  rw [filled]
  split
  · exact List.cons_ne_nil _ _
  · rename_i h
    simpa using h

theorem wellMade_of_typeAt? {place : Place} {entry : Entry} (h : converter.typeAt? place = some entry) :
    entry.WellMade converter.root := by
  obtain ⟨path, _ | node, required⟩ := place
  · cases h
  · simp only [typeAt?, Option.bind_some] at h
    split at h
    · cases h
      intro value hvalue c hc
      obtain ⟨written, -, rfl⟩ := List.mem_map.mp hvalue
      exact mem_sanitized hc
    · cases h
      exact ⟨filled_ne_nil, decide_eq_true_iff⟩
    · cases h

theorem wellMade_of_survey {places : List Place} :
    ∀ entry ∈ (converter.survey places).1, entry.WellMade converter.root := by
  intro entry hentry
  obtain ⟨place, -, htype⟩ := List.mem_filterMap.mp (survey_isPrefix.subset hentry)
  exact wellMade_of_typeAt? htype

end Converter

/-! ### Steps -/

namespace Session

/-- One step: something is converted, or a type is registered as it is. -/
inductive Step where
  | convert (name : String) (node : Option Node) (parent : Option TypePath) (required : List String)
  | register (entry : Entry)

/-- How a step on a registry ends, and what the registry is then. -/
def Step.on (converter : Converter) (registry : Registry) : Step → Except Fault Unit × Registry
  | .convert name node parent required =>
    let ending := (converter.convert name node parent required).run.run { registry }
    (ending.1.map fun _ => (), ending.2.registry)
  | .register entry =>
    match registry.register entry with
    | .ok registry => (.ok (), registry)
    | .error held => (.error (.duplicateType held.path entry.path), registry)

variable {converter : Converter} {registry : Registry} {step : Step} {entry : Entry}

/-- Both kinds of step register some types in order, up to the first whose name is held. -/
theorem exists_registerAll (converter : Converter) (step : Step) (registry : Registry) :
    ∃ es, (step.on converter registry).2 = (registry.registerAll es).1 := by
  cases step with
  | convert name node parent required =>
    have hregisters : (converter.convert name node parent required).Registers _ _ := Converter.convert_converts
    obtain ⟨notices, hrun⟩ := hregisters { registry }
    exact ⟨_, by rw [Step.on, hrun]⟩
  | register entry =>
    refine ⟨[entry], ?_⟩
    rw [Step.on, Registry.registerAll]
    cases registry.register entry <;> rfl

theorem nodup_keys_on (h : registry.keys.Nodup) : (step.on converter registry).2.keys.Nodup := by
  obtain ⟨es, hes⟩ := exists_registerAll converter step registry
  rw [hes]
  exact Registry.nodup_keys_registerAll h

/-- A conversion adds well-made types at the end, whether it succeeds or fails. -/
theorem exists_added_of_convert (converter : Converter) (registry : Registry) (name : String) (node : Option Node)
    (parent : Option TypePath) (required : List String) :
    ∃ added, ((Step.convert name node parent required).on converter registry).2.entries = registry.entries ++ added ∧
      ∀ entry ∈ added, entry.WellMade converter.root := by
  have hregisters : (converter.convert name node parent required).Registers _ _ := Converter.convert_converts
  obtain ⟨before, after, hes, hregistry, -⟩ := hregisters.exists_append { registry }
  refine ⟨before, congrArg Registry.entries hregistry, fun entry hentry => ?_⟩
  apply Converter.wellMade_of_survey
  rw [hes]
  exact List.mem_append_left _ hentry

/-- A type is added at the end, or it is refused because its name is held and nothing changes. -/
theorem register_cases (converter : Converter) (registry : Registry) (entry : Entry) :
    (entry.key ∉ registry.keys ∧ (Step.register entry).on converter registry = (.ok (), registry.append [entry])) ∨
    ∃ held, registry.get? entry.key = some held ∧
      (Step.register entry).on converter registry = (.error (.duplicateType held.path entry.path), registry) := by
  by_cases h : entry.key ∈ registry.keys
  · obtain ⟨held, hheld, -⟩ := Registry.exists_get?_of_mem h
    right
    refine ⟨held, hheld, ?_⟩
    rw [Step.on, Registry.register_of_get? hheld]
  · left
    refine ⟨h, ?_⟩
    rw [Step.on, Registry.register_of_not_mem h]

/-- Types stay in their places when others are added at the end. -/
theorem getElem?_of_added {before after : Registry} {added : List Entry} {i : Nat}
    (hadded : after.entries = before.entries ++ added) (hentry : before.entries[i]? = some entry) :
    after.entries[i]? = some entry := by
  obtain ⟨hi, -⟩ := List.getElem?_eq_some_iff.mp hentry
  rw [hadded, List.getElem?_append_left hi]
  exact hentry

/-! ### Runs -/

/-- The registry after some steps, which begin with an empty one. -/
def run (converter : Converter) (steps : List Step) : Registry :=
  steps.foldl (fun registry step => (step.on converter registry).2) .empty

theorem run_concat (steps : List Step) (step : Step) :
    run converter (steps ++ [step]) = (step.on converter (run converter steps)).2 := by
  rw [run, List.foldl_concat, run]

theorem nodup_keys_run (steps : List Step) : (run converter steps).keys.Nodup := by
  induction steps using List.reverseRecOn with
  | nil => exact List.nodup_nil
  | append_singleton steps step ih =>
    rw [run_concat]
    exact nodup_keys_on ih

/-- Take any session on one registry and one more step. The step leaves the registry with names of which no two are the
same, each being the joined path of the type that is found under it. All types that were there stay, in their places.
A single type comes last, or it is refused and the registry is what it was. Conversion puts well-made types at the end,
even if it fails. -/
theorem registry_after_step (converter : Converter) (steps : List Step) (step : Step) :
    let before := run converter steps
    let outcome := (step.on converter before).1
    let after := (step.on converter before).2
    run converter (steps ++ [step]) = after ∧
    after.keys.Nodup ∧
    (∀ key ∈ after.keys, ∃ entry, after.get? key = some entry) ∧
    (∀ key entry, after.get? key = some entry ↔ entry ∈ after.entries ∧ entry.path.joined = key) ∧
    (∀ (i : Nat) (entry : Entry), before.entries[i]? = some entry → after.entries[i]? = some entry) ∧
    match step with
    | .register entry =>
      (outcome = .ok () ∧ entry.path.joined ∉ before.keys ∧ after.entries = before.entries ++ [entry]) ∨
      ∃ held, before.get? entry.path.joined = some held ∧ outcome = .error (.duplicateType held.path entry.path) ∧
        after = before
    | .convert .. => ∀ (i : Nat) (entry : Entry), before.entries.length ≤ i → after.entries[i]? = some entry →
        entry.WellMade converter.root := by
  intro before outcome after
  have hnodup : after.keys.Nodup := nodup_keys_on (nodup_keys_run steps)
  have hfound : ∀ key ∈ after.keys, ∃ entry, after.get? key = some entry := by
    intro key hkey
    obtain ⟨entry, hentry, -⟩ := Registry.exists_get?_of_mem hkey
    exact ⟨entry, hentry⟩
  refine ⟨run_concat steps step, hnodup, hfound, fun key entry => Registry.get?_eq_some_iff hnodup, ?_⟩
  cases step with
  | convert name node parent required =>
    obtain ⟨added, hadded, hmade⟩ := exists_added_of_convert converter before name node parent required
    refine ⟨fun i entry hentry => getElem?_of_added hadded hentry, fun i entry hi hentry => ?_⟩
    have hafter : after.entries = before.entries ++ added := hadded
    rw [hafter, List.getElem?_append_right hi] at hentry
    exact hmade entry (List.mem_of_getElem? hentry)
  | register entry =>
    rcases register_cases converter before entry with ⟨hfree, hon⟩ | ⟨held, hheld, hon⟩
    · have hafter : after = before.append [entry] := congrArg Prod.snd hon
      have hadded : after.entries = before.entries ++ [entry] := congrArg Registry.entries hafter
      exact ⟨fun i other hother => getElem?_of_added hadded hother, Or.inl ⟨congrArg Prod.fst hon, hfree, hadded⟩⟩
    · have hafter : after = before := congrArg Prod.snd hon
      refine ⟨fun i other hother => ?_, Or.inr ⟨held, hheld, congrArg Prod.fst hon, hafter⟩⟩
      rw [hafter]
      exact hother

/-! ### A gate, and another type by the name of its rails -/

def rails : SoundNode := Node.ofParts { values := some ["top-rail", "mid rail"] }

def gate : SoundNode := Node.ofParts
  { type := some "object", properties := some (Definitions.empty.put "rails" (some rails)) }

def gates : Converter where
  document := ⟨Definitions.empty⟩
  root := "Gate"

def railsType : Entry := ⟨⟨"Gate", ["rails"]⟩, none, false, .enum ["toprail", "midrail"]⟩

def gateType : Entry := ⟨⟨"Gate", []⟩, none, false, .composite true [("rails", ⟨.named "Gate_rails", none, false⟩)]⟩

def otherRails : Entry := ⟨⟨"Gate_rails", []⟩, none, false, .enum []⟩

def building : Step := .convert "Gate" (some gate.val) none []

theorem run_building : run gates [building] = ⟨[railsType, gateType]⟩ := by cbv

/-- The gate and its rails are found under their joined names and are well made. Other rails are refused, because the
name is that of the rails of the gate. -/
theorem registry_after_step_gate :
    ((run gates [building]).keys = ["Gate_rails", "Gate"] ∧
      (run gates [building]).get? "Gate_rails" = some railsType ∧ (run gates [building]).get? "Gate" = some gateType ∧
      railsType.WellMade "Gate" ∧ gateType.WellMade "Gate") ∧
    ((Step.register otherRails).on gates (run gates [building])).1 =
        .error (.duplicateType ⟨"Gate", ["rails"]⟩ ⟨"Gate_rails", []⟩) ∧
      run gates [building, .register otherRails] = run gates [building] := by
  obtain ⟨hbuilt, -, -, hfound, -, hmade⟩ := registry_after_step gates [] building
  rw [← hbuilt, List.nil_append, run_building] at hfound hmade
  obtain ⟨hrefused, -, -, -, -, hcases⟩ := registry_after_step gates [building] (.register otherRails)
  rw [run_building] at hrefused hcases
  have hrails : Registry.get? ⟨[railsType, gateType]⟩ "Gate_rails" = some railsType :=
    (hfound "Gate_rails" railsType).mpr ⟨List.mem_cons_self, by decide⟩
  rw [run_building]
  refine ⟨⟨by decide, hrails, (hfound "Gate" gateType).mpr ⟨by simp, by decide⟩, hmade 0 railsType (Nat.zero_le _) rfl,
    hmade 1 gateType (Nat.zero_le _) rfl⟩, ?_⟩
  rcases hcases with ⟨-, hfree, -⟩ | ⟨held, hheld, herror, hafter⟩
  · exact absurd (by decide) hfree
  · cases hrails.symm.trans hheld
    exact ⟨herror, hrefused.trans hafter⟩

end Session
end SchemaSdl
