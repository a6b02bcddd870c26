import Mathlib
import SchemaSdl.Proofs.Testing

/-! What a pass reports as a duplicate. The two types that collide stand at different paths, both in inline trees of
selected definitions, and the report tells these paths apart: paths with one name and one trail are one path. -/

namespace SchemaSdl

/-! ### Names and trails -/

namespace Text
variable {α : Type} {c d : α} {more p q s t s' t' : List α} {a b : List (List α)}

theorem eq_nil_of_cons_eq_append (hne : c ≠ d) (hc : c :: s = p ++ c :: t) (hd : d :: s' = p ++ d :: t') : p = [] := by
  cases p with
  | nil => rfl
  | cons x p =>
    obtain ⟨rfl, -⟩ := List.cons.inj hc
    obtain ⟨h, -⟩ := List.cons.inj hd
    exact absurd h.symm hne

/-- A piece that stands once before one separator and once before another is told by the two texts. -/
theorem eq_of_append_cons (hne : c ≠ d) (hc : p ++ c :: s = q ++ c :: t) (hd : p ++ d :: s' = q ++ d :: t') :
    p = q := by
  rcases List.append_eq_append_iff.mp hc with ⟨rest, rfl, hs⟩ | ⟨rest, rfl, ht⟩
  · rw [List.append_assoc] at hd
    rw [eq_nil_of_cons_eq_append hne hs (List.append_cancel_left hd), List.append_nil]
  · rw [List.append_assoc] at hd
    rw [eq_nil_of_cons_eq_append hne ht (List.append_cancel_left hd).symm, List.append_nil]

/-- One piece is not several, whatever two separators join them. -/
theorem not_intercalate_singleton (hne : c ≠ d) (hc : p = [c].intercalate (q :: s :: a)) :
    p ≠ (d :: more).intercalate (q :: s :: a) := by
  intro hd
  rw [List.intercalate_cons_cons, List.append_assoc] at hc hd
  obtain ⟨h, -⟩ := List.cons.inj (List.append_cancel_left (hc.symm.trans hd))
  exact hne h

/-- Two joins of one list of pieces, by separators that begin differently, determine the list. -/
theorem eq_of_intercalate (hne : c ≠ d) (ha : a ≠ []) (hb : b ≠ []) (hc : [c].intercalate a = [c].intercalate b)
    (hd : (d :: more).intercalate a = (d :: more).intercalate b) : a = b := by
  induction a generalizing b with
  | nil => exact absurd rfl ha
  | cons p a ih =>
    obtain ⟨q, b, rfl⟩ := List.exists_cons_of_ne_nil hb
    cases a with
    | nil =>
      rw [List.intercalate_singleton] at hc hd
      cases b with
      | nil =>
        rw [List.intercalate_singleton] at hc
        rw [hc]
      | cons q' b => exact absurd hd (not_intercalate_singleton hne hc)
    | cons p' a =>
      cases b with
      | nil =>
        rw [List.intercalate_singleton] at hc hd
        exact absurd hd.symm (not_intercalate_singleton hne hc.symm)
      | cons q' b =>
        rw [List.intercalate_cons_cons, List.intercalate_cons_cons, List.append_assoc, List.append_assoc] at hc hd
        obtain rfl := eq_of_append_cons hne hc hd
        rw [ih (List.cons_ne_nil _ _) (List.cons_ne_nil _ _) (List.append_cancel_left (List.append_cancel_left hc))
          (List.append_cancel_left (List.append_cancel_left hd))]

end Text

/-- Paths with one name and one trail are one path. Either may be that of several, names being any texts. -/
theorem TypePath.eq_of_joined_of_trail {p q : TypePath} (hjoined : p.joined = q.joined) (htrail : p.trail = q.trail) :
    p = q := by
  have hnames := congrArg String.toList hjoined
  have htrails := congrArg String.toList htrail
  rw [joined, joined, String.toList_intercalate, String.toList_intercalate] at hnames
  rw [trail, trail, String.toList_intercalate, String.toList_intercalate] at htrails
  have hne : '_' ≠ ' ' := by decide
  have hpieces : p.segments.map String.toList = q.segments.map String.toList :=
    Text.eq_of_intercalate hne (by simp [segments]) (by simp [segments]) hnames htrails
  exact segments_injective (List.map_injective_iff.mpr (fun v w h => String.toList_injective h) hpieces)

/-! ### Collisions in a pass -/

namespace Pass
open Conversion Selector
variable {pass : Pass} {selector : Selector} {held refused : TypePath}

/-- The types at the places of a pass have paths of their own. -/
theorem pairwise_paths (pass : Pass) (filter exclude : Option (String → Bool)) :
    ((pass.places filter exclude).filterMap pass.converter.typeAt?).Pairwise fun d e => d.path ≠ e.path := by
  refine (List.pairwise_map.mp (nodup_paths pass filter exclude)).filterMap _ fun p q hne d hd e he => ?_
  rwa [Converter.path_of_typeAt? hd, Converter.path_of_typeAt? he]

/-- Whatever its tests come to, a pass registers some of the first types at its places, and its own end is no
collision unless a test makes it one. -/
theorem exists_registers (pass : Pass) (hselector : selector.BlamesPatterns) : ∃ es o,
    (pass.conversion selector).Registers es o ∧
    es <+: (pass.places (some selector.chooses) none).filterMap pass.converter.typeAt? ∧
    o ≠ .error (.duplicateType held refused) := by
  rcases exists_first_fault selector pass.document.definitions.members with
    hchoices | ⟨before, name, slot, after, fault, hmembers, hbefore, hfault⟩
  · rw [conversion_of_choices hchoices]
    exact ⟨_, _, conversion_registers pass, Converter.survey_isPrefix, Converter.survey_ne_duplicateType⟩
  · refine ⟨_, _, conversion_registers_of_fault hmembers hbefore hfault, ?_, ?_⟩
    · refine Converter.survey_isPrefix.trans (List.IsPrefix.filterMap _ ?_)
      rw [places, roots, hmembers, rootsOf_append, List.flatMap_append]
      exact List.prefix_append _ _
    · obtain ⟨cause, rfl⟩ := hselector name fault hfault
      cases hs : (pass.converter.survey ((rootsOf (some selector.chooses) none before).flatMap Place.tree)).2 with
      | error other =>
        intro h
        exact Converter.survey_ne_duplicateType (hs.trans (congrArg Except.error (Except.error.inj h)))
      | ok done =>
        intro h
        cases h

/-- A pass that reports a collision has come to a type whose name an earlier one holds. -/
theorem exists_of_duplicateType {es : List Entry} {o : Except Fault Unit} (hc : (pass.conversion selector).Registers es o)
    (ho : o ≠ .error (.duplicateType held refused))
    (h : pass.registry selector = .error (.duplicateType held refused)) :
    ∃ before e after d, es = before ++ e :: after ∧ d ∈ before ∧ d.key = e.key ∧ d.path = held ∧ e.path = refused := by
  rw [Pass.registry, run] at h
  by_cases hfresh : Registry.empty.Fresh es
  · obtain ⟨hrun, -⟩ := hc.run_of_fresh {} hfresh
    rcases hresult : (pass.conversion selector).run.run {} with ⟨fault | ⟨⟩, walk⟩ <;> rw [hresult] at h hrun
    · refine absurd (hrun.symm.trans ?_) ho
      exact congrArg Except.error (Except.error.inj h)
    · cases h
  · obtain ⟨before, e, after, d, rfl, hbefore, hheld⟩ := Registry.exists_held_of_not_fresh hfresh
    obtain ⟨hrun, -⟩ := hc.run_of_held {} hbefore hheld
    rcases hresult : (pass.conversion selector).run.run {} with ⟨fault | ⟨⟩, walk⟩ <;> rw [hresult] at h hrun
    · obtain ⟨rfl, rfl⟩ := Fault.duplicateType.inj ((Except.error.inj hrun).symm.trans (Except.error.inj h))
      have hd : d ∈ before := by simpa [Registry.append, Registry.empty] using List.mem_of_find?_eq_some hheld
      have hkey : d.key = e.key := by simpa using List.find?_some hheld
      exact ⟨before, e, after, d, rfl, hd, hkey, rfl, rfl⟩
    · cases h

theorem reaches_of_typeAt? {entry : Entry}
    (h : entry ∈ (pass.places (some selector.chooses) none).filterMap pass.converter.typeAt?) :
    ∃ place, pass.Reaches selector place ∧ place.declaresType = true ∧ place.path = entry.path := by
  obtain ⟨place, hplace, htype⟩ := List.mem_filterMap.mp h
  exact ⟨place, reaches_iff.mpr (mem_places_iff.mp hplace), Converter.declaresType_of_typeAt? htype,
    (Converter.path_of_typeAt? htype).symm⟩

/-- Two types of a pass collide: enumerations or composites in the inline trees of selected definitions, at different
paths that join to one name. A report of them names both trails, and these differ. -/
structure Collide (pass : Pass) (selector : Selector) (held refused : TypePath) : Prop where
  held_reached : ∃ place, pass.Reaches selector place ∧ place.declaresType = true ∧ place.path = held
  refused_reached : ∃ place, pass.Reaches selector place ∧ place.declaresType = true ∧ place.path = refused
  segments_ne : held.segments ≠ refused.segments
  joined_eq : held.joined = refused.joined
  trail_ne : held.trail ≠ refused.trail
  message_eq : (Fault.duplicateType held refused).message = "type name " ++ Text.backquoted held.joined
    ++ " produced by both " ++ Text.backquoted held.trail ++ " and " ++ Text.backquoted refused.trail

theorem collide_of_registry (hselector : selector.BlamesPatterns)
    (h : pass.registry selector = .error (.duplicateType held refused)) : pass.Collide selector held refused := by
  obtain ⟨es, o, hregisters, hfirst, ho⟩ := exists_registers pass hselector
  obtain ⟨before, e, after, d, rfl, hd, hkey, rfl, rfl⟩ := exists_of_duplicateType hregisters ho h
  have hjoined : d.path.joined = e.path.joined := hkey
  have hpaths := (pairwise_paths pass (some selector.chooses) none).sublist hfirst.sublist
  have hne : d.path ≠ e.path := (List.pairwise_append.mp hpaths).2.2 d hd e List.mem_cons_self
  refine ⟨reaches_of_typeAt? (hfirst.subset (List.mem_append_left _ hd)),
    reaches_of_typeAt? (hfirst.subset (List.mem_append_right _ List.mem_cons_self)),
    fun hsegments => hne (TypePath.segments_injective hsegments), hjoined,
    fun htrail => hne (TypePath.eq_of_joined_of_trail hjoined htrail), ?_⟩
  rw [hjoined]
  rfl

/-- When a pass reports that two types have one name, there are two such types, whatever the selection: tests that
may fail through their patterns, and in particular those that given patterns make. -/
theorem collision_of_duplicateType (pass : Pass) (held refused : TypePath) :
    (∀ selector : Selector, selector.BlamesPatterns →
      pass.registry selector = .error (.duplicateType held refused) → pass.Collide selector held refused) ∧
    ∀ selection : Selection, selection.selector >>= pass.registry = .error (.duplicateType held refused) →
      ∃ selector, selection.selector = .ok selector ∧ pass.Collide selector held refused := by
  refine ⟨fun selector hselector h => collide_of_registry hselector h, fun selection h => ?_⟩
  rcases Selection.selector_cases selection with ⟨filter, exclude, -, -, hmade⟩ | ⟨cause, hmade⟩
  · rw [hmade] at h
    exact ⟨_, hmade, collide_of_registry (Selection.blamesPatterns hmade) h⟩
  · rw [hmade] at h
    cases h

/-- Two ways to one name, and a definition behind them on which the test is given up. -/
def twoWays : Pass where
  document := ⟨Definitions.empty
    |>.put "A" (some (Node.ofParts
      { type := some "object",
        properties := some (Definitions.empty.put "x_y" (some (Node.ofParts { values := some ["on"] }))) }))
    |>.put "A_x" (some (Node.ofParts
      { type := some "object",
        properties := some (Definitions.empty.put "y" (some (Node.ofParts { values := some ["off"] }))) }))
    |>.put "Z" none⟩
  root := "Y"
  template := none
  root_ne := by decide

def givingUp : Selector where
  filter := some fun name => if name = "Z" then .error (.invalidFilter .tooManyRetreats) else .ok true

theorem givingUp_blamesPatterns : givingUp.BlamesPatterns := by
  intro name fault h
  obtain ⟨test, htest | htest, hfault⟩ := exists_test_of_fault h
  · cases htest
    dsimp only at hfault
    split at hfault
    · cases hfault
      exact ⟨_, rfl⟩
    · cases hfault
  · cases htest

theorem collision_of_twoWays :
    (givingUp.BlamesPatterns ∧ twoWays.registry givingUp = .error (.duplicateType ⟨"A", ["x_y"]⟩ ⟨"A_x", ["y"]⟩) ∧
      twoWays.Collide givingUp ⟨"A", ["x_y"]⟩ ⟨"A_x", ["y"]⟩) ∧
    ({} : Selection).selector >>= twoWays.registry = .error (.duplicateType ⟨"A", ["x_y"]⟩ ⟨"A_x", ["y"]⟩) ∧
      twoWays.Collide {} ⟨"A", ["x_y"]⟩ ⟨"A_x", ["y"]⟩ := by
  obtain ⟨htests, hpatterns⟩ := collision_of_duplicateType twoWays ⟨"A", ["x_y"]⟩ ⟨"A_x", ["y"]⟩
  have hgivingUp : twoWays.registry givingUp = .error (.duplicateType ⟨"A", ["x_y"]⟩ ⟨"A_x", ["y"]⟩) := by cbv
  have hall : ({} : Selection).selector >>= twoWays.registry = .error (.duplicateType ⟨"A", ["x_y"]⟩ ⟨"A_x", ["y"]⟩) := by
    cbv
  obtain ⟨selector, hselector, hcollide⟩ := hpatterns {} hall
  cases hselector
  exact ⟨⟨givingUp_blamesPatterns, hgivingUp, htests givingUp givingUp_blamesPatterns hgivingUp⟩, hall, hcollide⟩

end Pass
end SchemaSdl
