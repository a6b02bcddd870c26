import Mathlib
import SchemaSdl.Proofs.Survey

/-! Conversion factors through what it does without a registry: certain types in a certain order and an outcome.
With any registry it does just that, or it stops at the first of the types whose name is held. -/

namespace SchemaSdl.Converter
open Conversion

/-- A node and what is said about its place fix the types and the outcome of its conversion. The types have paths of
their own, all under the path of the node, and the outcome is no collision. Whatever types a registry holds,
conversion adds these types to their end and has this outcome, or it adds those before the first one whose name is
held and reports that one and the holder of its name. It never touches a type that was there, and made again it
collides with its own first type. -/
theorem convert_factors (converter : Converter) (name : String) (node : Option SoundNode) (parent : Option TypePath)
    (required : List String) :
    let conversion := converter.convert name (node.map Subtype.val) parent required
    ∃ (es : List Entry) (o : Except Fault Fragment),
      (∀ held refused, o ≠ .error (.duplicateType held refused)) ∧
      (es.map Entry.path).Nodup ∧
      (∀ e ∈ es, (TypePath.nested parent name).segments <+: e.path.segments) ∧
      ∀ walk : Walk,
        (walk.registry.Fresh es →
          (conversion.run.run walk).1 = o ∧ (conversion.run.run walk).2.registry = walk.registry.append es) ∧
        (¬walk.registry.Fresh es → ∃ before e after held, es = before ++ e :: after ∧ walk.registry.Fresh before ∧
          (walk.registry.append before).get? e.key = some held ∧
          (conversion.run.run walk).1 = .error (.duplicateType held.path e.path) ∧
          (conversion.run.run walk).2.registry = walk.registry.append before) ∧
        walk.registry.entries <+: (conversion.run.run walk).2.registry.entries ∧
        ∀ again : Walk, again.registry = (conversion.run.run walk).2.registry → ∀ e ∈ es.head?, ∃ held,
          again.registry.get? e.key = some held ∧
          (conversion.run.run again).1 = .error (.duplicateType held.path e.path) ∧
          (conversion.run.run again).2.registry = again.registry := by
  intro conversion
  let place : Place := ⟨.nested parent name, node.map Subtype.val, required.contains name⟩
  have hregisters : conversion.Registers _ _ := convert_converts
  have hsound : place.Sound := by
    rintro inner hinner
    obtain ⟨sound, -, rfl⟩ := Option.map_eq_some_iff.mp hinner
    exact sound.property
  refine ⟨_, _, fun _ _ => outcome_ne_duplicateType, paths_sublist.nodup hsound.nodup_paths, fun e he => ?_,
    fun walk => ⟨hregisters.run_of_fresh walk, fun hfresh => ?_, ?_,
      fun again hagain => hregisters.run_again walk hagain⟩⟩
  · obtain ⟨q, hq, hpath⟩ := List.mem_map.mp (paths_sublist.subset (List.mem_map_of_mem he))
    rw [← hpath]
    exact Place.prefix_of_mem_tree hq
  · obtain ⟨before, e, after, held, hes, hbefore, hheld⟩ := Registry.exists_held_of_not_fresh hfresh
    rw [hes] at hregisters
    exact ⟨before, e, after, held, hes, hbefore, hheld, hregisters.run_of_held walk hbefore hheld⟩
  · obtain ⟨before, -, -, hregistry, -⟩ := hregisters.exists_append walk
    rw [hregistry]
    exact List.prefix_append _ _

/-! ### A shutter and the type of its slats -/

def shutter : SoundNode := Node.ofParts
  { type := some "object",
    properties := some (Definitions.empty.put "slats" (some (Node.ofParts { values := some ["half-open", "shut"] }))) }

def shutters : Converter where
  document := ⟨Definitions.empty⟩
  root := "Shutter"

def slatsType : Entry := ⟨⟨"Shutter", ["slats"]⟩, none, false, .enum ["halfopen", "shut"]⟩

def shutterType : Entry :=
  ⟨⟨"Shutter", []⟩, none, false, .composite true [("slats", ⟨.named "Shutter_slats", none, false⟩)]⟩

def holdingSlats : Walk where
  registry := ⟨[⟨⟨"Shutter_slats", []⟩, none, false, .enum []⟩]⟩

def holdingBoth : Walk where
  registry := ⟨[slatsType, shutterType]⟩

def shutting : Conversion Fragment := shutters.convert "Shutter" ((some shutter).map Subtype.val) none []

theorem ending_shutting : (shutting.run.run {}).1 =
    .ok ⟨"Shutter", ⟨.named "Shutter", none, false⟩, some ⟨"Shutter", []⟩⟩ := by cbv

theorem registry_shutting : (shutting.run.run {}).2.registry = ⟨[slatsType, shutterType]⟩ := by cbv

/-- An empty registry gets the two types under their joined names. One that holds the name of the slats gets none, and
neither does one that has got these two already. -/
theorem convert_factors_shutter :
    (shutting.run.run {}).2.registry.keys = ["Shutter_slats", "Shutter"] ∧
    ((shutting.run.run holdingSlats).1 = .error (.duplicateType ⟨"Shutter_slats", []⟩ ⟨"Shutter", ["slats"]⟩) ∧
      (shutting.run.run holdingSlats).2.registry = holdingSlats.registry) ∧
    (shutting.run.run holdingBoth).1 = .error (.duplicateType ⟨"Shutter", ["slats"]⟩ ⟨"Shutter", ["slats"]⟩) ∧
      (shutting.run.run holdingBoth).2.registry = holdingBoth.registry := by
  obtain ⟨es, o, -, -, -, hwalk⟩ := convert_factors shutters "Shutter" (some shutter) none []
  obtain ⟨hempty, hheld, -, hagain⟩ := hwalk {}
  -- What an empty registry gets tells which types these are.
  have hes : es = [slatsType, shutterType] := by
    by_cases hfresh : Registry.empty.Fresh es
    · exact congrArg Registry.entries ((hempty hfresh).2.symm.trans registry_shutting)
    · obtain ⟨_, _, _, _, -, -, -, herror, -⟩ := hheld hfresh
      cases ending_shutting.symm.trans herror
  subst hes
  refine ⟨by rw [registry_shutting]; decide, ?_, ?_⟩
  · obtain ⟨-, hheld, -, -⟩ := hwalk holdingSlats
    have hslats : slatsType.key ∈ holdingSlats.registry.keys := by decide
    obtain ⟨before, e, after, held, hes, hbefore, hget, herror, hleft⟩ :=
      hheld fun hfresh => hfresh.1 slatsType List.mem_cons_self hslats
    -- The slats are first, and no type comes before them.
    cases before with
    | nil =>
      cases hes
      cases hget
      exact ⟨herror, hleft⟩
    | cons first before =>
      obtain ⟨rfl, -⟩ := List.cons.inj hes
      exact absurd hslats (hbefore.1 slatsType List.mem_cons_self)
  · obtain ⟨held, hget, herror, hkept⟩ := hagain holdingBoth registry_shutting.symm slatsType rfl
    cases hget
    exact ⟨herror, hkept⟩

end SchemaSdl.Converter
