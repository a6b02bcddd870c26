import Mathlib
import SchemaSdl.Proofs.Acceptance
import SchemaSdl.Proofs.Chains

/-! More definitions. What is converted with a document is converted the same with any document that has all its
definitions and more. Only a reference to what is no definition may come to one there. -/

namespace SchemaSdl

/-- A document has all definitions that another one has, each under the same name. -/
def Document.Extends (larger smaller : Document) : Prop :=
  ∀ name node, smaller.get? name = some node → larger.get? name = some node

namespace Conversion
variable {α β : Type} {c d : Conversion α} {k l : α → Conversion β}

/-- A conversion has failed at a reference to what is no definition. -/
def Unresolved (ending : Except Fault α) : Prop := ∃ field target, ending = .error (.unresolvedReference field target)

/-- From every walk two conversions go the same way to the same end, unless the first fails at a reference to what is
no definition. -/
def Persists (c d : Conversion α) : Prop :=
  ∀ walk, c.run.run walk = d.run.run walk ∨ Unresolved (c.run.run walk).1

theorem persists_refl (c : Conversion α) : Persists c c := fun _ => Or.inl rfl

theorem persists_unresolved {field target : String} :
    Persists (throw (.unresolvedReference field target)) d := fun _ => Or.inr ⟨field, target, rfl⟩

theorem Persists.bind (hc : Persists c d) (hk : ∀ a, Persists (k a) (l a)) : Persists (c >>= k) (d >>= l) := by
  intro walk
  have hfirst := hc walk
  rw [run_bind, run_bind]
  rcases hrun : c.run.run walk with ⟨fault | a, after⟩ <;> rw [hrun] at hfirst
  · rcases hfirst with hsame | ⟨field, target, h⟩
    · rw [← hsame]
      exact Or.inl rfl
    · obtain rfl := Except.error.inj h
      exact Or.inr ⟨field, target, rfl⟩
  · rcases hfirst with hsame | ⟨field, target, h⟩
    · rw [← hsame]
      exact hk a after
    · cases h

end Conversion

namespace Document
open Conversion
variable {smaller larger : Document}

theorem follow_persists (h : larger.Extends smaller) (field : String) (required : Bool) (passed : List String)
    (description : Option String) (target : String) (list : Bool) :
    Persists (smaller.follow field required passed description target list)
      (larger.follow field required passed description target list) := by
  fun_induction settle smaller field required passed description target list with
  | case1 passed description target list hnode =>
    rw [follow_of_none hnode]
    exact persists_unresolved
  | case2 passed description target list node hnode halias hpassed =>
    rw [follow_of_some hnode, follow_of_some (h target node hnode)]
    simp only [if_pos halias, if_pos hpassed]
    exact persists_refl _
  | case3 passed description target list node hnode halias hpassed s hs =>
    rw [follow_of_some hnode, follow_of_some (h target node hnode)]
    simp only [if_pos halias, if_neg hpassed, hs]
    exact persists_refl _
  | case4 passed description target list node hnode halias hpassed next list' hs _ ih =>
    rw [follow_of_some hnode, follow_of_some (h target node hnode)]
    simp only [if_pos halias, if_neg hpassed, hs]
    exact (persists_refl _).bind fun _ => ih
  | case5 passed description target list node hnode halias hpassed hs hr =>
    rw [follow_of_some hnode, follow_of_some (h target node hnode)]
    simp only [if_pos halias, if_neg hpassed]
    exact persists_refl _
  | case6 passed description target list node hnode halias =>
    rw [follow_of_some hnode, follow_of_some (h target node hnode)]
    simp only [if_neg halias]
    exact persists_refl _

end Document

namespace Converter
open Conversion
variable {smaller larger : Document} {root : String}

theorem visitProperties_persists {path : TypePath} {names : List String} {properties : Members (Option Node)}
    (ih : ∀ x inner, (x, some inner) ∈ properties →
      Persists (visit ⟨smaller, root⟩ x inner (some path) (names.contains x))
        (visit ⟨larger, root⟩ x inner (some path) (names.contains x))) :
    Persists (visitProperties ⟨smaller, root⟩ path names properties)
      (visitProperties ⟨larger, root⟩ path names properties) := by
  induction properties with
  | nil =>
    rw [visitProperties, visitProperties]
    exact persists_refl _
  | cons p rest ihrest =>
    have hrest := ihrest fun x inner hmem => ih x inner (List.mem_cons_of_mem _ hmem)
    obtain ⟨x, _ | inner⟩ := p
    · rw [visitProperties, visitProperties]
      exact persists_refl _
    · rw [visitProperties, visitProperties]
      exact (ih x inner List.mem_cons_self).bind fun fragment => hrest.bind fun fields => persists_refl _

/-- A visit is the same with more definitions: they are looked at nowhere but at the end of an unresolved reference. -/
theorem visit_persists (h : larger.Extends smaller) {name : String} {node : Node} {parent : Option TypePath}
    {required : Bool} : Persists (visit ⟨smaller, root⟩ name node parent required)
      (visit ⟨larger, root⟩ name node parent required) := by
  induction node using Node.shape_induction generalizing name parent required with
  | step node ihproperties ihitems =>
    rw [visit_eq, visit_eq]
    refine (persists_refl _).bind fun _ => ?_
    cases hshape : node.shape with
    | reference target list =>
      exact (Document.follow_persists h name required [] node.description target list).bind fun field =>
        persists_refl _
    | composite properties names =>
      refine Persists.bind ?_ fun fields => persists_refl _
      exact visitProperties_persists fun x inner hmem => ihproperties properties names hshape x inner hmem
    | inlineArray items => exact (ihitems items hshape).bind fun item => persists_refl _
    | _ => exact persists_refl _

/-- Take two documents, one of which has all definitions of the other, and anything that is converted. If conversion
with the smaller one succeeds, conversion with the larger one succeeds with the same fragment and the same registry. If
it fails otherwise than at a reference to what is no definition, the other fails with the same fault and leaves the same
registry behind. -/
theorem convert_of_extends (smaller larger : Document) (root name : String) (slot : Option Node)
    (parent : Option TypePath) (required : List String) (walk : Walk) (h : larger.Extends smaller) :
    let before := (convert ⟨smaller, root⟩ name slot parent required).run.run walk
    let after := (convert ⟨larger, root⟩ name slot parent required).run.run walk
    (∀ fragment, before.1 = .ok fragment → after.1 = .ok fragment ∧ after.2.registry = before.2.registry) ∧
    ∀ fault, before.1 = .error fault → (∀ field target, fault ≠ .unresolvedReference field target) →
      after.1 = .error fault ∧ after.2.registry = before.2.registry := by
  intro before after
  have hpersists : Persists (convert ⟨smaller, root⟩ name slot parent required)
      (convert ⟨larger, root⟩ name slot parent required) := by
    cases slot with
    | none =>
      rw [convert, convert]
      exact persists_refl _
    | some node => exact visit_persists h
  have hcases : before = after ∨ Unresolved before.1 := hpersists walk
  constructor
  · intro fragment hbefore
    rcases hcases with hsame | ⟨field, target, hunresolved⟩
    · rw [← hsame]
      exact ⟨hbefore, rfl⟩
    · rw [hunresolved] at hbefore
      cases hbefore
  · intro fault hbefore hother
    rcases hcases with hsame | ⟨field, target, hunresolved⟩
    · rw [← hsame]
      exact ⟨hbefore, rfl⟩
    · rw [hunresolved] at hbefore
      exact absurd (Except.error.inj hbefore).symm (hother field target)

/-! ### A document and a larger one -/

def tally : SoundNode := Node.ofParts
  { type := some "object", properties := some (Definitions.empty.put "unit" (some (pointer "Unit" false none))) }

/-- An alias, and a name without a schema. -/
def units : Document := ⟨Definitions.empty |>.put "Gone" none |>.put "Unit" (some remark)⟩

/-- The same alias after others, one of which has the name that had no schema. -/
def moreUnits : Document := ⟨Definitions.empty
  |>.put "Other" (some money)
  |>.put "Gone" (some (pointer "Other" true none))
  |>.put "Unit" (some remark)⟩

theorem moreUnits_extends : moreUnits.Extends units := by
  intro name node h
  have hmem := Document.mem_of_get? h
  simp only [units, Definitions.put, Definitions.empty, Members.put, Option.map_some, Option.map_none,
    String.reduceEq, ↓reduceIte, List.mem_cons, Prod.mk.injEq, reduceCtorEq, and_false, Option.some.injEq,
    List.not_mem_nil, or_false, false_or] at hmem
  obtain ⟨rfl, rfl⟩ := hmem
  rfl

def tallyTypes : Registry :=
  ⟨[⟨⟨"Tally", []⟩, none, false, .composite true [("unit", ⟨.scalar .string, some "", false⟩)]⟩]⟩

theorem ending_tally : ((convert ⟨units, "Tally"⟩ "Tally" (some tally.val) none []).run.run {}).1 =
    .ok ⟨"Tally", ⟨.named "Tally", none, false⟩, some ⟨"Tally", []⟩⟩ := by cbv

theorem registry_tally :
    ((convert ⟨units, "Tally"⟩ "Tally" (some tally.val) none []).run.run {}).2.registry = tallyTypes := by cbv

theorem ending_shapeless : ((convert ⟨units, "Tally"⟩ "x" (some (Node.ofParts {}).val) none []).run.run {}).1 =
    .error (.unmappable "x" none) := by cbv

theorem convert_of_extends_tally :
    moreUnits.Extends units ∧
    (((convert ⟨units, "Tally"⟩ "Tally" (some tally.val) none []).run.run {}).1 =
        .ok ⟨"Tally", ⟨.named "Tally", none, false⟩, some ⟨"Tally", []⟩⟩ ∧
      ((convert ⟨moreUnits, "Tally"⟩ "Tally" (some tally.val) none []).run.run {}).1 =
        .ok ⟨"Tally", ⟨.named "Tally", none, false⟩, some ⟨"Tally", []⟩⟩ ∧
      ((convert ⟨moreUnits, "Tally"⟩ "Tally" (some tally.val) none []).run.run {}).2.registry = tallyTypes) ∧
    ((convert ⟨moreUnits, "Tally"⟩ "x" (some (Node.ofParts {}).val) none []).run.run {}).1 =
      .error (.unmappable "x" none) := by
  obtain ⟨hok, -⟩ := convert_of_extends units moreUnits "Tally" "Tally" (some tally.val) none [] {} moreUnits_extends
  obtain ⟨-, herror⟩ := convert_of_extends units moreUnits "Tally" "x" (some (Node.ofParts {}).val) none [] {}
    moreUnits_extends
  obtain ⟨hsame, hregistry⟩ := hok _ ending_tally
  exact ⟨moreUnits_extends, ⟨ending_tally, hsame, hregistry.trans registry_tally⟩, (herror _ ending_shapeless nofun).1⟩

end Converter
end SchemaSdl
