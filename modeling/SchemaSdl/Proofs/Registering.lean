import Mathlib.Data.List.Nodup
import SchemaSdl.Conversion

/-! What a conversion does to a registry, told without the registry: it registers certain types in order and
then has a certain outcome, unless the name of one of them is held already. The first such type stops it. -/

namespace SchemaSdl

/-! ### One type after another -/

namespace Registry
variable {registry : Registry} {entry : Entry} {es fs : List Entry}

/-- Registers types in order, up to the first whose name is held. Gives back the one that holds it, too. -/
def registerAll (registry : Registry) : List Entry → Registry × Option (Entry × Entry)
  | [] => (registry, none)
  | entry :: rest =>
    match registry.register entry with
    | .ok registry => registerAll registry rest
    | .error held => (registry, some (held, entry))

/-- None of the types has a name that is held, by the registry or by an earlier one of them. -/
def Fresh (registry : Registry) (es : List Entry) : Prop :=
  (∀ e ∈ es, e.key ∉ registry.keys) ∧ (es.map Entry.key).Nodup

/-- The registry with more types at its end. -/
def append (registry : Registry) (es : List Entry) : Registry := ⟨registry.entries ++ es⟩

@[simp] theorem keys_append : (registry.append es).keys = registry.keys ++ es.map Entry.key := by
  simp [append, keys]

@[simp] theorem append_nil : registry.append [] = registry := by simp [append]

theorem append_append : (registry.append es).append fs = registry.append (es ++ fs) := by simp [append]

theorem get?_eq_none_iff {key : String} : registry.get? key = none ↔ key ∉ registry.keys := by
  simp only [get?, keys, List.find?_eq_none, decide_eq_true_eq, List.mem_map, not_exists, not_and]

theorem exists_get?_of_mem {key : String} (h : key ∈ registry.keys) :
    ∃ held, registry.get? key = some held ∧ held ∈ registry.entries ∧ held.key = key := by
  cases hg : registry.get? key with
  | none => exact absurd h (get?_eq_none_iff.mp hg)
  | some held => exact ⟨held, rfl, List.mem_of_find?_eq_some hg, by simpa using List.find?_some hg⟩

/-- Where no two types share a name, each is found under its own. -/
theorem get?_eq_some_iff {key : String} (h : registry.keys.Nodup) :
    registry.get? key = some entry ↔ entry ∈ registry.entries ∧ entry.key = key := by
  constructor
  · intro hget
    exact ⟨List.mem_of_find?_eq_some hget, by simpa using List.find?_some hget⟩
  · rintro ⟨hentry, rfl⟩
    obtain ⟨held, hget, hheld, hkey⟩ := exists_get?_of_mem (List.mem_map_of_mem hentry)
    rw [hget, List.inj_on_of_nodup_map h hheld hentry hkey]

theorem register_of_not_mem (h : entry.key ∉ registry.keys) :
    registry.register entry = .ok (registry.append [entry]) := by
  rw [register, get?_eq_none_iff.mpr h]
  rfl

theorem register_of_get? {held : Entry} (h : registry.get? entry.key = some held) :
    registry.register entry = .error held := by
  rw [register, h]

theorem registerAll_append : registry.registerAll (es ++ fs) =
    match registry.registerAll es with
    | (registry, none) => registry.registerAll fs
    | (registry, some collision) => (registry, some collision) := by
  induction es generalizing registry with
  | nil => rfl
  | cons entry rest ih =>
    simp only [List.cons_append, registerAll]
    cases registry.register entry with
    | ok registry => exact ih
    | error held => rfl

theorem fresh_nil : registry.Fresh [] := ⟨nofun, List.nodup_nil⟩

theorem fresh_cons : registry.Fresh (entry :: es) ↔ entry.key ∉ registry.keys ∧ (registry.append [entry]).Fresh es := by
  simp only [Fresh, List.forall_mem_cons, List.map_cons, List.nodup_cons, keys_append, List.mem_append, not_or,
    List.map_nil, List.mem_singleton, List.mem_map, not_exists, not_and]
  constructor
  · rintro ⟨⟨h₁, h₂⟩, h₃, h₄⟩
    exact ⟨h₁, fun e he => ⟨h₂ e he, h₃ e he⟩, h₄⟩
  · rintro ⟨h₁, h₂, h₃⟩
    exact ⟨⟨h₁, fun e he => (h₂ e he).1⟩, fun e he => (h₂ e he).2, h₃⟩

theorem registerAll_of_fresh (h : registry.Fresh es) : registry.registerAll es = (registry.append es, none) := by
  induction es generalizing registry with
  | nil => simp [registerAll]
  | cons entry rest ih =>
    obtain ⟨hentry, hrest⟩ := fresh_cons.mp h
    rw [registerAll, register_of_not_mem hentry]
    simp only
    rw [ih hrest, append_append, List.singleton_append]

/-- Whether or not one of the types is refused, no two types share a name if none did before. -/
theorem nodup_keys_registerAll (h : registry.keys.Nodup) : (registry.registerAll es).1.keys.Nodup := by
  induction es generalizing registry with
  | nil => exact h
  | cons entry rest ih =>
    rw [registerAll]
    by_cases hentry : entry.key ∈ registry.keys
    · obtain ⟨held, hheld, -⟩ := exists_get?_of_mem hentry
      rw [register_of_get? hheld]
      exact h
    · rw [register_of_not_mem hentry]
      apply ih
      rw [keys_append]
      exact h.append (List.nodup_singleton _) (List.disjoint_singleton.mpr hentry)

theorem registerAll_of_held {before after : List Entry} {held : Entry} (h : registry.Fresh before)
    (hheld : (registry.append before).get? entry.key = some held) :
    registry.registerAll (before ++ entry :: after) = (registry.append before, some (held, entry)) := by
  rw [registerAll_append, registerAll_of_fresh h]
  simp only [registerAll]
  rw [register_of_get? hheld]

/-- Types of which one has a name that is held begin with some that do not and then the first that does. -/
theorem exists_held_of_not_fresh (h : ¬registry.Fresh es) :
    ∃ before entry after held, es = before ++ entry :: after ∧ registry.Fresh before ∧
      (registry.append before).get? entry.key = some held := by
  induction es generalizing registry with
  | nil => exact absurd fresh_nil h
  | cons entry rest ih =>
    by_cases hentry : entry.key ∈ registry.keys
    · obtain ⟨held, hheld, -⟩ := exists_get?_of_mem hentry
      exact ⟨[], entry, rest, held, rfl, fresh_nil, by rwa [append_nil]⟩
    · have hrest : ¬(registry.append [entry]).Fresh rest := fun hrest => h (fresh_cons.mpr ⟨hentry, hrest⟩)
      obtain ⟨before, refused, after, held, rfl, hfresh, hheld⟩ := ih hrest
      refine ⟨entry :: before, refused, after, held, rfl, fresh_cons.mpr ⟨hentry, hfresh⟩, ?_⟩
      rwa [append_append] at hheld

end Registry

/-! ### Conversions -/

namespace Conversion
variable {α β : Type} {c : Conversion α} {k : α → Conversion β} {a : α} {fault : Fault} {o : Except Fault β}
  {es fs : List Entry}

theorem map_eq_error_iff {g : α → β} {o : Except Fault α} : o.map g = .error fault ↔ o = .error fault := by
  cases o <;> simp [Except.map]

theorem map_eq_ok_iff {g : α → β} {o : Except Fault α} {b : β} : o.map g = .ok b ↔ ∃ a, o = .ok a ∧ g a = b := by
  cases o <;> simp [Except.map]

/-- The outcome of registering types and then coming to an end. A collision wins. -/
def outcome (collision : Option (Entry × Entry)) (o : Except Fault α) : Except Fault α :=
  match collision with
  | none => o
  | some (held, refused) => .error (.duplicateType held.path refused.path)

/-- From whatever walk a conversion sets out, it registers these types and then has this outcome. -/
def Registers (c : Conversion α) (es : List Entry) (o : Except Fault α) : Prop :=
  ∀ walk : Walk, ∃ notices,
    c.run.run walk = (outcome (walk.registry.registerAll es).2 o, ⟨(walk.registry.registerAll es).1, notices⟩)

theorem run_bind (walk : Walk) : (c >>= k).run.run walk =
    match c.run.run walk with
    | (.ok a, walk) => (k a).run.run walk
    | (.error fault, walk) => (.error fault, walk) := by
  change (match c.run.run walk with | (a, walk) => (ExceptT.bindCont k a).run walk) = _
  rcases c.run.run walk with ⟨_ | _, _⟩ <;> rfl

theorem run_note_bind {notice : Notice} {k : Unit → Conversion β} (walk : Walk) :
    (note notice >>= k).run.run walk = (k ()).run.run { walk with notices := walk.notices.push notice } := rfl

theorem run_get_bind {k : Walk → Conversion β} (walk : Walk) :
    (getThe Walk >>= k).run.run walk = (k walk).run.run walk := rfl

theorem registers_pure : Registers (pure a) [] (.ok a) := fun walk => ⟨walk.notices, rfl⟩

theorem registers_throw : Registers (throw fault : Conversion α) [] (.error fault) := fun walk => ⟨walk.notices, rfl⟩

theorem registers_note {notice : Notice} : (note notice).Registers [] (.ok ()) :=
  fun walk => ⟨walk.notices.push notice, rfl⟩

theorem Registers.bind (hc : c.Registers es (.ok a)) (hk : (k a).Registers fs o) :
    (c >>= k).Registers (es ++ fs) o := by
  intro walk
  obtain ⟨notices, hc⟩ := hc walk
  rw [run_bind, hc, Registry.registerAll_append]
  rcases walk.registry.registerAll es with ⟨registry, _ | collision⟩
  · exact hk ⟨registry, notices⟩
  · exact ⟨notices, rfl⟩

theorem Registers.bind_error (hc : c.Registers es (.error fault)) : (c >>= k).Registers es (.error fault) := by
  intro walk
  obtain ⟨notices, hc⟩ := hc walk
  rw [run_bind, hc]
  refine ⟨notices, ?_⟩
  rcases walk.registry.registerAll es with ⟨registry, _ | collision⟩ <;> rfl

theorem Registers.map {g : α → β} {o : Except Fault α} (hc : c.Registers es o) :
    (c >>= fun a => pure (g a)).Registers es (o.map g) := by
  cases o with
  | error fault => exact hc.bind_error
  | ok a =>
    have h := hc.bind (k := fun a => pure (g a)) registers_pure
    rwa [List.append_nil] at h

theorem registers_register {entry : Entry} : (register entry).Registers [entry] (.ok ()) := by
  intro walk
  refine ⟨walk.notices.push (.registering entry.path entry.kind), ?_⟩
  rw [register, run_note_bind, run_get_bind]
  simp only [Registry.registerAll]
  cases walk.registry.register entry <;> rfl

/-! ### What is left behind -/

section Run
variable {o : Except Fault α} (walk : Walk)

theorem Registers.run_of_fresh (hc : c.Registers es o) (hfresh : walk.registry.Fresh es) :
    (c.run.run walk).1 = o ∧ (c.run.run walk).2.registry = walk.registry.append es := by
  obtain ⟨notices, hrun⟩ := hc walk
  rw [hrun, Registry.registerAll_of_fresh hfresh]
  exact ⟨rfl, rfl⟩

/-- The first type whose name is held stops a conversion. The types before it stay. -/
theorem Registers.run_of_held {before after : List Entry} {entry held : Entry}
    (hc : c.Registers (before ++ entry :: after) o) (hfresh : walk.registry.Fresh before)
    (hheld : (walk.registry.append before).get? entry.key = some held) :
    (c.run.run walk).1 = .error (.duplicateType held.path entry.path) ∧
      (c.run.run walk).2.registry = walk.registry.append before := by
  obtain ⟨notices, hrun⟩ := hc walk
  rw [hrun, Registry.registerAll_of_held hfresh hheld]
  exact ⟨rfl, rfl⟩

/-- A conversion that fails, and not by a collision, fails so without a registry. -/
theorem Registers.outcome_eq_error (hc : c.Registers es o) (h : (c.run.run walk).1 = .error fault)
    (hfault : ∀ held refused, fault ≠ .duplicateType held refused) : o = .error fault := by
  obtain ⟨notices, hrun⟩ := hc walk
  rw [hrun] at h
  rcases hcollision : (walk.registry.registerAll es).2 with _ | ⟨held, refused⟩ <;> rw [hcollision] at h
  · exact h
  · exact absurd (Except.error.inj h).symm (hfault held.path refused.path)

/-- A conversion that succeeds does so without a registry, and adds all its types. -/
theorem Registers.run_of_ok (hc : c.Registers es o) (h : (c.run.run walk).1 = .ok a) :
    o = .ok a ∧ (c.run.run walk).2.registry = walk.registry.append es := by
  by_cases hfresh : walk.registry.Fresh es
  · obtain ⟨hrun, hregistry⟩ := hc.run_of_fresh walk hfresh
    exact ⟨hrun.symm.trans h, hregistry⟩
  · obtain ⟨before, entry, after, held, rfl, hbefore, hheld⟩ := Registry.exists_held_of_not_fresh hfresh
    obtain ⟨hrun, -⟩ := hc.run_of_held walk hbefore hheld
    rw [h] at hrun
    cases hrun

/-- A conversion adds the types up to some place in their order. It adds the first one, unless its name is held. -/
theorem Registers.exists_append (hc : c.Registers es o) : ∃ before after, es = before ++ after ∧
    (c.run.run walk).2.registry = walk.registry.append before ∧
      ∀ e ∈ es.head?, e.key ∈ (c.run.run walk).2.registry.keys := by
  by_cases hfresh : walk.registry.Fresh es
  · obtain ⟨-, hregistry⟩ := hc.run_of_fresh walk hfresh
    refine ⟨es, [], (List.append_nil es).symm, hregistry, fun e he => ?_⟩
    rw [hregistry, Registry.keys_append]
    exact List.mem_append_right _ (List.mem_map_of_mem (List.mem_of_mem_head? he))
  · obtain ⟨before, entry, after, held, rfl, hbefore, hheld⟩ := Registry.exists_held_of_not_fresh hfresh
    obtain ⟨-, hregistry⟩ := hc.run_of_held walk hbefore hheld
    refine ⟨before, entry :: after, rfl, hregistry, fun e he => ?_⟩
    rw [hregistry]
    -- If the first type is the one refused, then what holds its name was there.
    cases before with
    | nil =>
      cases he
      refine Classical.byContradiction fun hfree => ?_
      rw [Registry.get?_eq_none_iff.mpr hfree] at hheld
      cases hheld
    | cons first rest =>
      cases he
      simp

/-- A conversion made again collides with the first type that it registers, if any. -/
theorem Registers.run_again (hc : c.Registers es o) {again : Walk}
    (hagain : again.registry = (c.run.run walk).2.registry) : ∀ e ∈ es.head?, ∃ held,
      again.registry.get? e.key = some held ∧ (c.run.run again).1 = .error (.duplicateType held.path e.path) ∧
        (c.run.run again).2.registry = again.registry := by
  intro e he
  obtain ⟨-, -, -, -, hkey⟩ := hc.exists_append walk
  obtain ⟨held, hheld, -⟩ := Registry.exists_get?_of_mem (hagain ▸ hkey e he)
  obtain ⟨rest, rfl⟩ : ∃ rest, es = e :: rest := List.head?_eq_some_iff.mp he
  have hrun := (show c.Registers ([] ++ e :: rest) o from hc).run_of_held again Registry.fresh_nil
    (by rwa [Registry.append_nil])
  rw [Registry.append_nil] at hrun
  exact ⟨held, hheld, hrun⟩

end Run

end Conversion
end SchemaSdl
