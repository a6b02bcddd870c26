import Mathlib.Data.List.Basic
import Mathlib.Data.List.Induction
import SchemaSdl.Proofs.Rebuilding

/-! Names that come up more than once. What is left has each name where it comes up first, with the value that it has
last. -/

namespace SchemaSdl

namespace Members
variable {α : Type u} {members : Members α} {pairs : List (String × α)} {name n : String} {value v : α}

/-- Each name where it comes up first, with the value that it has last. -/
def merged (pairs : List (String × α)) : Members α :=
  (names pairs).eraseDups.filterMap fun name => (pairs.reverse.lookup name).map (name, ·)

theorem get?_cons : get? ((name, value) :: members) n = if n = name then some value else members.get? n := by
  rw [get?, List.lookup_cons]
  by_cases hn : n = name
  · simp [hn]
  · simp [hn, beq_eq_false_iff_ne.mpr hn, get?]

/-- Members without repeated names are what their names stand for. -/
theorem eq_of_namesDistinct (h : members.NamesDistinct) :
    members = members.names.filterMap fun name => (members.get? name).map (name, ·) := by
  induction members with
  | nil => rfl
  | cons member rest ih =>
    obtain ⟨name, value⟩ := member
    obtain ⟨hname, hrest⟩ := List.nodup_cons.mp h
    have hothers : ∀ n ∈ names rest, (get? ((name, value) :: rest) n).map (n, ·) = (get? rest n).map (n, ·) := by
      intro n hn
      have hne : n ≠ name := fun heq => hname (heq ▸ hn)
      rw [get?_cons, if_neg hne]
    rw [names_cons, List.filterMap_cons, get?_cons, if_pos rfl, List.filterMap_congr hothers]
    exact congrArg _ (ih hrest)

/-! ### One pair after another -/

theorem names_put : (members.put name value).names =
    if name ∈ members.names then members.names else members.names ++ [name] := by
  induction members with
  | nil => rfl
  | cons member rest ih =>
    obtain ⟨m, v⟩ := member
    by_cases hm : m = name
    · simp [put, hm]
    · have hm' : name ≠ m := Ne.symm hm
      simp only [put, if_neg hm, names_cons, ih, List.mem_cons, hm', false_or]
      split <;> rfl

theorem get?_put : (members.put name value).get? n = if n = name then some value else members.get? n := by
  induction members with
  | nil => rw [put, get?_cons]
  | cons member rest ih =>
    obtain ⟨m, v⟩ := member
    by_cases hm : m = name
    · rw [put, if_pos hm, get?_cons, get?_cons, hm]
      split <;> rfl
    · rw [put, if_neg hm, get?_cons, get?_cons, ih]
      by_cases hn : n = m
      · rw [if_pos hn, if_pos hn, if_neg (hn ▸ hm)]
      · rw [if_neg hn, if_neg hn]

theorem ofPairs_concat : ofPairs (pairs ++ [(name, value)]) = (ofPairs pairs).put name value := by
  rw [ofPairs, List.foldl_append, ← ofPairs, List.foldl_cons, List.foldl_nil]

theorem namesDistinct_ofPairs (pairs : List (String × α)) : (ofPairs pairs).NamesDistinct := by
  induction pairs using List.reverseRecOn with
  | nil => exact namesDistinct_nil
  | append_singleton pairs pair ih => exact ofPairs_concat ▸ ih.put _ _

theorem names_ofPairs (pairs : List (String × α)) : (ofPairs pairs).names = (names pairs).eraseDups := by
  induction pairs using List.reverseRecOn with
  | nil => rfl
  | append_singleton pairs pair ih =>
    obtain ⟨name, value⟩ := pair
    have hnames : names (pairs ++ [(name, value)]) = names pairs ++ [name] := List.map_append
    rw [ofPairs_concat, names_put, ih, hnames, List.eraseDups_append]
    simp only [List.mem_eraseDups]
    by_cases hmem : name ∈ names pairs
    · simp [hmem, List.removeAll]
    · simp [hmem, List.removeAll, List.eraseDups_cons]

theorem get?_ofPairs (pairs : List (String × α)) : (ofPairs pairs).get? n = get? pairs.reverse n := by
  induction pairs using List.reverseRecOn with
  | nil => rfl
  | append_singleton pairs pair ih =>
    obtain ⟨name, value⟩ := pair
    rw [ofPairs_concat, get?_put, ih, List.reverse_concat, get?_cons]

/-- Putting pairs one after another leaves each name in its first place with its last value. -/
theorem ofPairs_eq_merged (pairs : List (String × α)) : ofPairs pairs = merged pairs := by
  rw [eq_of_namesDistinct (namesDistinct_ofPairs pairs), names_ofPairs]
  simp only [get?_ofPairs]
  rfl

theorem namesDistinct_merged (pairs : List (String × α)) : (merged pairs).NamesDistinct :=
  ofPairs_eq_merged pairs ▸ namesDistinct_ofPairs pairs

theorem mem_of_mem_merged (h : (name, value) ∈ merged pairs) : (name, value) ∈ pairs := by
  obtain ⟨n, -, hn⟩ := List.mem_filterMap.mp h
  obtain ⟨v, hlookup, heq⟩ := Option.map_eq_some_iff.mp hn
  obtain ⟨rfl, rfl⟩ := Prod.mk.inj heq
  obtain ⟨before, after, hpairs, -⟩ := List.lookup_eq_some_iff.mp hlookup
  rw [← List.mem_reverse, hpairs]
  exact List.mem_append_right _ List.mem_cons_self

end Members

/-! ### Nodes -/

namespace Node

/-- A node with the names of its properties merged, here and in every node below. -/
def merged : Node → Node := rebuild fun node => { node with properties := node.properties.map Members.merged }

theorem merged_eq (node : Node) : node.merged = { node with
    properties := node.properties.map fun properties =>
      Members.merged (properties.map fun property => (property.1, property.2.map merged))
    items := node.items.map merged } := by
  rw [merged, rebuild_eq]
  simp only [Option.map_map]
  rfl

theorem wellFormed_merged (node : Node) : node.merged.WellFormed := by
  induction node using Node.induction with
  | step node ihslots ihitems =>
    rw [merged_eq]
    refine .intro ?_ ?_ ?_
    · intro properties hproperties
      obtain ⟨slots, -, rfl⟩ := Option.map_eq_some_iff.mp hproperties
      exact Members.namesDistinct_merged _
    · intro properties hproperties name inner hmem
      obtain ⟨slots, hslots, rfl⟩ := Option.map_eq_some_iff.mp hproperties
      obtain ⟨⟨name', slot⟩, hslot, heq⟩ := List.mem_map.mp (Members.mem_of_mem_merged hmem)
      obtain ⟨rfl, hinner⟩ := Prod.mk.inj heq
      obtain ⟨child, rfl, rfl⟩ := Option.map_eq_some_iff.mp hinner
      exact ihslots slots hslots _ child hslot
    · intro inner hinner
      obtain ⟨child, hchild, rfl⟩ := Option.map_eq_some_iff.mp hinner
      exact ihitems child hchild

end Node
end SchemaSdl
