import Mathlib.Data.List.Basic
import SchemaSdl.Files.Tree

/-! What writing does to a tree of files. A file is read back as it was written, whatever stood at its path. Making
directories adds directories and nothing else. -/

namespace SchemaSdl.FileTree
variable {tree before after made : FileTree} {location start directory next : Location} {names above : List String}
  {name path : String} {content : List UInt8}

/-! ### Following names -/

/-- The place to which one name leads from a directory. -/
def next? (location : Location) (name : String) : Option Location :=
  if Path.isIdle name then some location
  else if name = ".." then some location.dropLast
  else if nameLimit < name.utf8ByteSize then none
  else some (location ++ [name])

theorem requireDirectory_eq_ok_iff :
    tree.requireDirectory location = .ok () ↔ tree.item? location = some .directory := by
  rw [requireDirectory]
  cases tree.item? location with
  | none => simp
  | some item => cases item <;> simp

theorem follow_cons_eq_ok_iff : tree.follow start (name :: names) = .ok location ↔
    tree.item? start = some .directory ∧
      ∃ next, next? start name = some next ∧ tree.follow next names = .ok location := by
  rw [follow, ← requireDirectory_eq_ok_iff]
  cases tree.requireDirectory start with
  | error fault =>
    change Except.error fault = _ ↔ _
    simp
  | ok =>
    change (if _ then _ else _) = _ ↔ _
    rw [next?]
    split
    · simp
    · split
      · simp
      · split
        · change Except.error _ = _ ↔ _
          simp
        · simp

/-- Names lead to the same place in every tree that has the directories of this one. -/
theorem follow_of_directories
    (hkept : ∀ place, before.item? place = some .directory → after.item? place = some .directory)
    (h : before.follow start names = .ok location) : after.follow start names = .ok location := by
  induction names generalizing start with
  | nil => exact h
  | cons name names ih =>
    obtain ⟨hstart, next, hnext, hrest⟩ := follow_cons_eq_ok_iff.mp h
    exact follow_cons_eq_ok_iff.mpr ⟨hkept start hstart, next, hnext, ih hrest⟩

theorem follow_append (habove : tree.follow start above = .ok directory)
    (hnames : tree.follow directory names = .ok location) : tree.follow start (above ++ names) = .ok location := by
  induction above generalizing start with
  | nil =>
    cases habove
    exact hnames
  | cons name above ih =>
    obtain ⟨hstart, next, hnext, hrest⟩ := follow_cons_eq_ok_iff.mp habove
    exact follow_cons_eq_ok_iff.mpr ⟨hstart, next, hnext, ih hrest⟩

/-! ### Files -/

theorem bind_eq_ok_iff {α β : Type} {x : Except FileFault α} {f : α → Except FileFault β} {b : β} :
    x >>= f = .ok b ↔ ∃ a, x = .ok a ∧ f a = .ok b := by
  cases x with
  | error fault => exact ⟨nofun, nofun⟩
  | ok a => exact ⟨fun h => ⟨a, rfl, h⟩, fun ⟨_, ha, h⟩ => by cases ha; exact h⟩

/-- A text that does not end in a blank piece is its last piece behind the others. -/
theorem eq_concat_of_dropWhile (h : names.reverse.dropWhile (· = "") = name :: above)
    (hlast : names.getLast? ≠ some "") : names = above.reverse ++ [name] ∧ name ≠ "" := by
  have hfront : names.reverse.dropWhile (· = "") = names.reverse := by
    cases hreverse : names.reverse with
    | nil => rfl
    | cons last front =>
      have hne : last ≠ "" := by
        rintro rfl
        exact hlast (by rw [← List.head?_reverse, hreverse]; rfl)
      rw [List.dropWhile_cons_of_neg (by simpa using hne)]
  rw [hfront] at h
  have hnames : names = above.reverse ++ [name] := by
    rw [← List.reverse_reverse names, h, List.reverse_cons]
  refine ⟨hnames, ?_⟩
  rintro rfl
  exact hlast (by rw [hnames, List.getLast?_concat])

/-- What a path must be for a file to be written: its names lead to a directory and one further, where no directory
stands. -/
theorem exists_of_target (h : tree.target path = .ok location) :
    requirePath path = .ok () ∧ ∃ above directory name,
      Text.pieces '/' path = above ++ [name] ∧ tree.follow (tree.startOf path) above = .ok directory ∧
      tree.item? directory = some .directory ∧ next? directory name = some location ∧
      location ≠ [] ∧ tree.item? location ≠ some .directory := by
  obtain ⟨⟨⟩, hpath, h⟩ := bind_eq_ok_iff.mp h
  refine ⟨hpath, ?_⟩
  dsimp only at h
  split at h
  · cases h
  · rename_i name above hnames
    obtain ⟨directory, hdirectory, h⟩ := bind_eq_ok_iff.mp h
    obtain ⟨⟨⟩, hrequired, h⟩ := bind_eq_ok_iff.mp h
    split at h
    · cases h
    · rename_i hlast
      simp only [Bool.or_eq_true, decide_eq_true_eq, not_or] at hlast
      obtain ⟨⟨hlast, hpoint⟩, hup⟩ := hlast
      split at h
      · cases h
      · rename_i hlength
        split at h
        · cases h
        · rename_i hfree
          cases h
          obtain ⟨hpieces, hblank⟩ := eq_concat_of_dropWhile hnames hlast
          refine ⟨above.reverse, directory, name, hpieces, hdirectory, requireDirectory_eq_ok_iff.mp hrequired, ?_,
            by simp, hfree⟩
          rw [next?, if_neg (by simp [Path.isIdle, hblank, hpoint]), if_neg hup, if_neg hlength]

/-- A file that has been written is found by its path, as it was written. Nothing else has changed. -/
theorem write_eq_ok (h : tree.write path content = .ok after) : ∃ location, after.locate path = .ok location ∧
    after.read path = .ok content ∧ after.item? location = some (.file content) ∧
    tree.item? location ≠ some .directory ∧ ∀ other ≠ location, after.item? other = tree.item? other := by
  obtain ⟨location, htarget, h⟩ := bind_eq_ok_iff.mp h
  cases h
  obtain ⟨hpath, above, directory, name, hpieces, habove, hdirectory, hnext, hne, hfree⟩ := exists_of_target htarget
  have hkept : ∀ place, tree.item? place = some .directory →
      (tree.put location (.file content)).item? place = some .directory := by
    intro place hplace
    have hne : place ≠ location := by
      rintro rfl
      exact hfree hplace
    rw [item?_put_of_ne hne]
    exact hplace
  have hname : (tree.put location (.file content)).follow directory [name] = .ok location :=
    follow_cons_eq_ok_iff.mpr ⟨hkept directory hdirectory, location, hnext, rfl⟩
  have hlocate : (tree.put location (.file content)).locate path = .ok location := by
    refine bind_eq_ok_iff.mpr ⟨(), hpath, ?_⟩
    rw [hpieces]
    exact follow_append (follow_of_directories hkept habove) hname
  have hitem : (tree.put location (.file content)).item? location = some (.file content) := item?_put_self hne
  refine ⟨location, hlocate, ?_, hitem, hfree, fun other hother => item?_put_of_ne hother⟩
  refine bind_eq_ok_iff.mpr ⟨.file content, bind_eq_ok_iff.mpr ⟨location, hlocate, ?_⟩, rfl⟩
  rw [hitem]
  rfl

/-! ### Directories -/

/-- Everything is where it was, and what is new are directories. -/
structure Grows (before after : FileTree) : Prop where
  kept : ∀ location item, before.item? location = some item → after.item? location = some item
  made : ∀ location item, after.item? location = some item → before.item? location = some item ∨ item = .directory

theorem Grows.refl (tree : FileTree) : tree.Grows tree := ⟨fun _ _ h => h, fun _ _ h => .inl h⟩

theorem Grows.trans (hfirst : before.Grows made) (hsecond : made.Grows after) : before.Grows after where
  kept location item h := hsecond.kept location item (hfirst.kept location item h)
  made location item h := by
    rcases hsecond.made location item h with h | h
    · exact hfirst.made location item h
    · exact .inr h

theorem grows_makeDirectory (h : tree.makeDirectory start above name = .ok made) : tree.Grows made := by
  obtain ⟨directory, -, h⟩ := bind_eq_ok_iff.mp h
  obtain ⟨⟨⟩, -, h⟩ := bind_eq_ok_iff.mp h
  split at h
  · cases h
  · split at h
    · cases h
    · split at h
      · cases h
      · rename_i hnone
        cases h
        have hput : (tree.put (directory ++ [name]) .directory).item? (directory ++ [name]) = some .directory :=
          item?_put_self (by simp)
        refine ⟨fun location item hitem => ?_, fun location item hitem => ?_⟩
        · have hne : location ≠ directory ++ [name] := by
            rintro rfl
            cases hnone.symm.trans hitem
          rw [item?_put_of_ne hne]
          exact hitem
        · by_cases heq : location = directory ++ [name]
          · subst heq
            exact .inr (Option.some.inj (hitem.symm.trans hput))
          · rw [item?_put_of_ne heq] at hitem
            exact .inl hitem

theorem grows_orPresent {outcome : Except FileFault FileTree} (h : tree.orPresent start names outcome = .ok made)
    (houtcome : ∀ made, outcome = .ok made → tree.Grows made) : tree.Grows made := by
  rw [orPresent.eq_def] at h
  split at h
  · cases h
    exact houtcome made rfl
  · split at h
    · split at h
      · cases h
        exact .refl tree
      · cases h
    · cases h

theorem grows_makeAll (h : tree.makeAll start names = .ok made) : tree.Grows made := by
  induction names generalizing tree made with
  | nil =>
    cases h
    exact .refl tree
  | cons name above ih =>
    rw [makeAll] at h
    split at h
    · obtain ⟨grown, hgrown, h⟩ := bind_eq_ok_iff.mp h
      exact (ih hgrown).trans (grows_orPresent h fun _ => grows_makeDirectory)
    · exact grows_orPresent h fun _ => grows_makeDirectory

theorem grows_makeDirectories (h : tree.makeDirectories path = .ok made) : tree.Grows made := by
  rw [makeDirectories] at h
  split at h
  · cases h
    exact .refl tree
  · obtain ⟨⟨⟩, -, h⟩ := bind_eq_ok_iff.mp h
    exact grows_makeAll h

end SchemaSdl.FileTree
