/-! Named members in the order in which their names first came up, the latest value winning. -/

namespace SchemaSdl

/-- Values under names, in order. -/
abbrev Members (α : Type u) := List (String × α)

namespace Members
variable {α : Type u}

/-- The names, in order. -/
def names (members : Members α) : List String := members.map Prod.fst

/-- No name occurs twice. -/
def NamesDistinct (members : Members α) : Prop := members.names.Nodup

instance (members : Members α) : Decidable members.NamesDistinct :=
  inferInstanceAs (Decidable members.names.Nodup)

/-- The value under a name. -/
def get? (members : Members α) (name : String) : Option α := members.lookup name

/-- A name that is there keeps its place and takes the new value; a new name comes last. -/
def put (members : Members α) (name : String) (value : α) : Members α :=
  match members with
  | [] => [(name, value)]
  | (n, v) :: rest => if n = name then (n, value) :: rest else (n, v) :: put rest name value

/-- The members that pairs leave behind, put one after another. -/
def ofPairs (pairs : List (String × α)) : Members α :=
  pairs.foldl (fun members pair => members.put pair.1 pair.2) []

@[simp] theorem names_nil : names ([] : Members α) = [] := rfl

@[simp] theorem names_cons (pair : String × α) (rest : Members α) :
    names (pair :: rest) = pair.1 :: names rest := rfl

theorem mem_names_put {members : Members α} {name n : String} {value : α} :
    n ∈ (members.put name value).names ↔ n ∈ members.names ∨ n = name := by
  induction members with
  | nil => simp [put]
  | cons pair rest ih =>
    obtain ⟨m, v⟩ := pair
    by_cases h : m = name
    · simp only [put, h, ↓reduceIte, names_cons, List.mem_cons]; grind
    · simp [put, h, ih, or_assoc]

theorem namesDistinct_nil : NamesDistinct ([] : Members α) := List.nodup_nil

theorem NamesDistinct.put {members : Members α} (h : members.NamesDistinct) (name : String) (value : α) :
    (members.put name value).NamesDistinct := by
  induction members with
  | nil => simp [Members.put, NamesDistinct]
  | cons pair rest ih =>
    obtain ⟨m, v⟩ := pair
    obtain ⟨hm, hrest⟩ := List.nodup_cons.1 h
    by_cases hn : m = name
    · simpa [Members.put, hn, NamesDistinct, names_cons] using h
    · simp only [Members.put, hn, ↓reduceIte]
      refine List.nodup_cons.2 ⟨fun hmem => ?_, ih hrest⟩
      rcases mem_names_put.1 hmem with hmem | hmem
      · exact hm hmem
      · exact hn hmem

theorem mem_of_mem_put {members : Members α} {name : String} {value : α} {pair : String × α}
    (h : pair ∈ members.put name value) : pair ∈ members ∨ pair = (name, value) := by
  induction members with
  | nil => simpa [put] using h
  | cons head rest ih =>
    obtain ⟨m, v⟩ := head
    by_cases hn : m = name
    · simp only [put, hn, ↓reduceIte, List.mem_cons] at h
      rcases h with h | h
      · exact Or.inr h
      · exact Or.inl (List.mem_cons_of_mem _ h)
    · simp only [put, hn, ↓reduceIte, List.mem_cons] at h
      rcases h with h | h
      · exact Or.inl (h ▸ List.mem_cons_self)
      · rcases ih h with h | h
        · exact Or.inl (List.mem_cons_of_mem _ h)
        · exact Or.inr h

/-- A name that the members hold has a value. -/
theorem mem_names_of_get?_eq_some {members : Members α} {name : String} {value : α}
    (h : members.get? name = some value) : name ∈ members.names := by
  induction members with
  | nil => simp [get?] at h
  | cons pair rest ih =>
    obtain ⟨m, v⟩ := pair
    by_cases hn : name = m
    · simp [hn]
    · simp only [get?, List.lookup_cons, beq_eq_false_iff_ne.2 hn] at h
      exact List.mem_cons_of_mem _ (ih h)

/-- Where no name occurs twice, each member is found under its name. -/
theorem get?_of_mem {members : Members α} {name : String} {value : α} (hdistinct : members.NamesDistinct)
    (h : (name, value) ∈ members) : members.get? name = some value := by
  obtain ⟨before, after, rfl⟩ := List.mem_iff_append.mp h
  refine List.lookup_eq_some_iff.mpr ⟨before, after, rfl, fun member hmember => ?_⟩
  rw [NamesDistinct, names, List.map_append, List.nodup_append] at hdistinct
  have hne := hdistinct.2.2 member.1 (List.mem_map_of_mem hmember) name (by simp)
  simpa using hne.symm

/-- A name stays where it is when the values are changed. -/
theorem get?_map {β : Type v} {members : Members α} {name : String} {f : α → β} :
    get? (members.map fun member => (member.1, f member.2)) name = (members.get? name).map f := by
  induction members with
  | nil => rfl
  | cons member rest ih =>
    obtain ⟨m, v⟩ := member
    simp only [get?, List.map_cons, List.lookup_cons] at ih ⊢
    cases name == m with
    | false => exact ih
    | true => rfl

end Members
end SchemaSdl
