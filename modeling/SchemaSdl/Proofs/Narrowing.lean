import Mathlib
import SchemaSdl.Proofs.Acceptance

/-! Selecting fewer definitions. Where a pass over all definitions succeeds, a pass over some of them succeeds too, and
its types are those of the full pass that were found under the definitions selected: nothing else about them changes,
for references are followed in the whole document and fewer types cannot collide. -/

namespace SchemaSdl

namespace Place

/-- The trees of some places are what remains of all trees in the definitions of those places. -/
theorem flatMap_tree_filter (keep : String → Bool) (roots : List Place) :
    (roots.filter fun root => keep root.path.root).flatMap tree =
      (roots.flatMap tree).filter fun place => keep place.path.root := by
  induction roots with
  | nil => rfl
  | cons root rest ih =>
    rw [List.flatMap_cons, List.filter_append, ← ih]
    by_cases hkeep : keep root.path.root = true
    · have hall : root.tree.filter (fun place => keep place.path.root) = root.tree :=
        List.filter_eq_self.mpr fun place hplace => by rw [root_of_mem_tree hplace, hkeep]
      rw [List.filter_cons, if_pos hkeep, List.flatMap_cons, hall]
    · have hnone : root.tree.filter (fun place => keep place.path.root) = [] :=
        List.filter_eq_nil_iff.mpr fun place hplace => by rwa [root_of_mem_tree hplace]
      rw [List.filter_cons, if_neg hkeep, hnone, List.nil_append]

end Place

theorem Converter.filterMap_typeAt?_filter {converter : Converter} (keep : String → Bool) (places : List Place) :
    (places.filter fun place => keep place.path.root).filterMap converter.typeAt? =
      (places.filterMap converter.typeAt?).filter fun entry => keep entry.path.root := by
  induction places with
  | nil => rfl
  | cons place rest ih =>
    rw [List.filterMap_cons]
    cases htype : converter.typeAt? place with
    | none =>
      rw [List.filter_cons]
      split
      · rw [List.filterMap_cons_none htype, ih]
      · exact ih
    | some entry =>
      simp only [List.filter_cons, path_of_typeAt? htype]
      split
      · rw [List.filterMap_cons_some htype, ih]
      · exact ih

namespace Pass
open Selector
variable {pass : Pass} {filter exclude : Option (String → Bool)} {registry : Registry}

theorem roots_eq_filter :
    pass.roots filter exclude = (pass.roots none none).filter fun root => selected filter exclude root.path.root := by
  rw [roots, roots, rootsOf, rootsOf, List.filter_map]
  congr 1
  exact (List.filter_congr fun member _ => rfl).trans (congrArg _ (List.filter_eq_self.mpr fun _ _ => rfl).symm)

theorem places_eq_filter :
    pass.places filter exclude = (pass.places none none).filter fun place => selected filter exclude place.path.root := by
  rw [places, roots_eq_filter, Place.flatMap_tree_filter (selected filter exclude)]
  rfl

/-- If a pass over all definitions succeeds, then so does a pass over those that any tests select. Its types are those
of the full pass whose paths begin with a selected definition, unchanged and in the same order. So its text is made
of the blocks of these types. -/
theorem registry_of_full (pass : Pass) (filter exclude : Option (String → Bool)) (registry : Registry)
    (h : pass.registry {} = .ok registry) : ∃ kept,
      pass.registry (ofPredicates filter exclude) = .ok kept ∧
      kept.entries = registry.entries.filter (fun entry => selected filter exclude entry.path.root) ∧
      kept.entries.Sublist registry.entries ∧ (blocks kept).Sublist (blocks registry) := by
  have hfull : pass.registry (ofPredicates none none) = .ok registry := h
  obtain ⟨hadmitted, hnodup, rfl⟩ := registry_eq_ok_iff_admitted.mp hfull
  have htypes : (pass.places filter exclude).filterMap pass.converter.typeAt? =
      ((pass.places none none).filterMap pass.converter.typeAt?).filter
        fun entry => selected filter exclude entry.path.root := by
    rw [places_eq_filter, Converter.filterMap_typeAt?_filter (selected filter exclude)]
  have hsublist : ((pass.places filter exclude).filterMap pass.converter.typeAt?).Sublist
      ((pass.places none none).filterMap pass.converter.typeAt?) := by
    rw [htypes]
    exact List.filter_sublist
  refine ⟨_, registry_eq_ok_iff_admitted.mpr ⟨fun place hplace => hadmitted place ?_, ?_, rfl⟩, htypes, hsublist,
    hsublist.map _⟩
  · rw [places_eq_filter] at hplace
    exact (List.mem_filter.mp hplace).1
  · exact hnodup.sublist (hsublist.map Entry.key)

/-- A type that refers to another one, and a type whose name begins like theirs. -/
def accounts : Pass where
  document := ⟨Definitions.empty
    |>.put "State" (some (Node.ofParts { values := some ["open", "closed"] }))
    |>.put "Account" (some (Node.ofParts
      { type := some "object",
        properties := some (Definitions.empty
          |>.put "state" (some (Node.ofParts { reference := some "#/definitions/State" }))
          |>.put "kind" (some (Node.ofParts { values := some ["a"] }))) }))
    |>.put "Account_2" (some (Node.ofParts { values := some ["b"] }))⟩
  root := "Account"
  template := none
  root_ne := by decide

def accountTypes : Registry :=
  ⟨[⟨⟨"State", []⟩, none, false, .enum ["open", "closed"]⟩,
    ⟨⟨"Account", ["kind"]⟩, none, false, .enum ["a"]⟩,
    ⟨⟨"Account", []⟩, none, false,
      .composite true [("state", ⟨.named "State", none, false⟩), ("kind", ⟨.named "Account_kind", none, false⟩)]⟩,
    ⟨⟨"Account_2", []⟩, none, false, .enum ["b"]⟩]⟩

/-- Without the definition that it refers to, and without the other one, the type is as it was. -/
theorem registry_of_full_accounts :
    accounts.registry {} = .ok accountTypes ∧
    ∃ kept, accounts.registry (Selector.ofPredicates (some fun name => name ≠ "State") (some (· = "Account_2"))) =
        .ok kept ∧
      kept.entries = [⟨⟨"Account", ["kind"]⟩, none, false, .enum ["a"]⟩,
        ⟨⟨"Account", []⟩, none, false, .composite true
          [("state", ⟨.named "State", none, false⟩), ("kind", ⟨.named "Account_kind", none, false⟩)]⟩] ∧
      (blocks kept).Sublist (blocks accountTypes) := by
  have hfull : accounts.registry {} = .ok accountTypes := by cbv
  obtain ⟨kept, hkept, hentries, -, hblocks⟩ := registry_of_full accounts _ _ accountTypes hfull
  exact ⟨hfull, kept, hkept, hentries.trans (by decide), hblocks⟩

end Pass
end SchemaSdl
