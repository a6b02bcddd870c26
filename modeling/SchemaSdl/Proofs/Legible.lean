import SchemaSdl.Text.Pieces

/-! Texts that can be read back. The text of a thing is legible if, whatever follows it, the characters tell where it
ends and what was to be shown. Lists of legible texts are legible if no text begins like what comes behind them. -/

namespace SchemaSdl.Text

/-- Things with the same text in front of any two continuations show the same, and the continuations agree. -/
def Legible {α β γ : Type} (write : α → List β) (shown : α → γ) (plain : α → Prop) : Prop :=
  ∀ ⦃a b : α⦄, plain a → plain b → ∀ ⦃s t : List β⦄, write a ++ s = write b ++ t → shown a = shown b ∧ s = t

/-! ### Runs -/

section Runs
variable {α : Type} {p : α → Prop} {l m s t : List α} {c d : α}

/-- A run of one class ends at the first item of another. -/
theorem append_cons_cancel (hl : ∀ x ∈ l, p x) (hm : ∀ x ∈ m, p x) (hc : ¬p c) (hd : ¬p d)
    (h : l ++ c :: s = m ++ d :: t) : l = m ∧ c = d ∧ s = t := by
  induction l generalizing m with
  | nil =>
    cases m with
    | nil =>
      obtain ⟨hcd, hst⟩ := List.cons.inj h
      exact ⟨rfl, hcd, hst⟩
    | cons y m =>
      obtain ⟨rfl, -⟩ := List.cons.inj h
      exact absurd (hm _ List.mem_cons_self) hc
  | cons x l ih =>
    obtain ⟨hx, hl⟩ := List.forall_mem_cons.mp hl
    cases m with
    | nil =>
      obtain ⟨rfl, -⟩ := List.cons.inj h
      exact absurd hx hd
    | cons y m =>
      obtain ⟨rfl, hrest⟩ := List.cons.inj h
      obtain ⟨rfl, hcd, hst⟩ := ih hl (List.forall_mem_cons.mp hm).2 hrest
      exact ⟨rfl, hcd, hst⟩

end Runs

/-! ### Words -/

/-- Letters and digits of ASCII, and the underscore. -/
def isWordChar (c : Char) : Bool := c.isAlphanum || c = '_'

/-- One or more such characters. -/
def IsWord (text : String) : Prop := text ≠ "" ∧ text.toList.all isWordChar = true

instance : DecidablePred IsWord := fun text =>
  inferInstanceAs (Decidable (text ≠ "" ∧ text.toList.all isWordChar = true))

section Words
variable {v w : String} {s t : List Char} {c d : Char}

theorem IsWord.exists_cons (h : IsWord w) : ∃ x rest, w.toList = x :: rest ∧ isWordChar x = true := by
  obtain ⟨hne, hword⟩ := h
  cases hw : w.toList with
  | nil => exact absurd (String.toList_eq_nil_iff.mp hw) hne
  | cons x rest =>
    rw [hw, List.all_eq_true] at hword
    exact ⟨x, rest, rfl, hword x List.mem_cons_self⟩

theorem IsWord.quote_not_mem_head? (h : IsWord w) : '"' ∉ (w.toList ++ s).head? := by
  obtain ⟨x, rest, hw, hx⟩ := h.exists_cons
  rw [hw]
  rintro ⟨⟩
  exact absurd hx (by decide)

theorem IsWord.cancel (hv : IsWord v) (hw : IsWord w) (hc : isWordChar c = false) (hd : isWordChar d = false)
    (h : v.toList ++ c :: s = w.toList ++ d :: t) : v = w ∧ c = d ∧ s = t := by
  obtain ⟨hvw, hcd, hst⟩ := append_cons_cancel (p := fun x => isWordChar x = true) (List.all_eq_true.mp hv.2)
    (List.all_eq_true.mp hw.2) (by simp [hc]) (by simp [hd]) h
  exact ⟨String.toList_injective hvw, hcd, hst⟩

end Words

/-! ### Pieces -/

section Pieces
variable {separator : Char} {a b s t closing : List Char}

theorem cut_append_cons : cut separator (a ++ separator :: b) = cut separator a ++ cut separator b := by
  induction a with
  | nil => simp [cut]
  | cons c a ih =>
    by_cases hc : c = separator
    · simp only [List.cons_append, cut, hc, ↓reduceIte, ih]
    · simp only [List.cons_append, cut, hc, ↓reduceIte, ih]
      cases hcut : cut separator a with
      | nil => exact absurd hcut (cut_ne_nil _ _)
      | cons piece more => rfl

theorem cut_of_not_mem (h : separator ∉ a) : cut separator a = [a] := by
  induction a with
  | nil => rfl
  | cons c a ih =>
    rw [List.mem_cons, not_or] at h
    obtain ⟨hc, ha⟩ := h
    simp only [cut, Ne.symm hc, ↓reduceIte, ih ha]

theorem intercalate_cut : [separator].intercalate (cut separator a) = a := by
  induction a with
  | nil => rfl
  | cons c a ih =>
    by_cases hc : c = separator
    · simp only [cut, hc, ↓reduceIte]
      rw [List.intercalate_cons_of_ne_nil (cut_ne_nil _ _), ih]
      rfl
    · simp only [cut, hc, ↓reduceIte]
      cases hcut : cut separator a with
      | nil => exact absurd hcut (cut_ne_nil _ _)
      | cons piece more =>
        rw [hcut] at ih
        simp only [List.intercalate_cons_cons_left, ih]

theorem cut_intercalate {lines : List (List Char)} (hne : lines ≠ [])
    (h : ∀ line ∈ lines, separator ∉ line) : cut separator ([separator].intercalate lines) = lines := by
  induction lines with
  | nil => exact absurd rfl hne
  | cons line rest ih =>
    obtain ⟨hline, hrest⟩ := List.forall_mem_cons.mp h
    cases rest with
    | nil => rw [List.intercalate_singleton, cut_of_not_mem hline]
    | cons next rest =>
      rw [List.intercalate_cons_cons, List.append_assoc, List.singleton_append, cut_append_cons, cut_of_not_mem hline,
        ih (List.cons_ne_nil _ _) hrest, List.singleton_append]

theorem mem_of_mem_cut {piece : List Char} {c : Char} (hpiece : piece ∈ cut separator a) (hc : c ∈ piece) : c ∈ a := by
  induction a generalizing piece with
  | nil =>
    rw [cut, List.mem_singleton] at hpiece
    rwa [hpiece] at hc
  | cons x a ih =>
    rw [cut] at hpiece
    split at hpiece
    · rcases List.mem_cons.mp hpiece with rfl | hpiece
      · cases hc
      · exact List.mem_cons_of_mem _ (ih hpiece hc)
    · cases hcut : cut separator a with
      | nil => exact absurd hcut (cut_ne_nil _ _)
      | cons first more =>
        rw [hcut] at ih hpiece
        rcases List.mem_cons.mp hpiece with rfl | hpiece
        · rcases List.mem_cons.mp hc with rfl | hc
          · exact List.mem_cons_self
          · exact List.mem_cons_of_mem _ (ih List.mem_cons_self hc)
        · exact List.mem_cons_of_mem _ (ih (List.mem_cons_of_mem _ hpiece) hc)

/-- A text ends before the first line that closes it. -/
theorem closing_cancel (hclosing : separator ∉ closing) (ha : closing ∉ cut separator a)
    (hb : closing ∉ cut separator b)
    (h : a ++ separator :: (closing ++ separator :: s) = b ++ separator :: (closing ++ separator :: t)) :
    a = b ∧ s = t := by
  have hcut := congrArg (cut separator) h
  simp only [cut_append_cons, cut_of_not_mem hclosing, List.singleton_append] at hcut
  obtain ⟨hab, -, hst⟩ := append_cons_cancel (p := fun piece => piece ≠ closing)
    (fun piece hpiece heq => ha (heq ▸ hpiece)) (fun piece hpiece heq => hb (heq ▸ hpiece)) (by simp) (by simp) hcut
  have hcutInjective : Function.Injective (cut separator) := fun x y hxy => by
    rw [← @intercalate_cut separator x, hxy, intercalate_cut]
  exact ⟨hcutInjective hab, hcutInjective hst⟩

end Pieces

/-! ### Lists -/

section Lists
variable {α γ : Type} {write : α → List Char} {shown : α → γ} {plain : α → Prop} {opens : Char → Prop}
  {l m : List α} {s t : List Char} {c : Char}

/-- Every text begins with a certain kind of character. -/
def Opens (opens : Char → Prop) (write : α → List Char) (plain : α → Prop) : Prop :=
  ∀ a, plain a → ∃ x rest, write a = x :: rest ∧ opens x

/-- Legible texts one after another are legible where nothing that begins like them follows. -/
theorem Legible.flatMap (h : Legible write shown plain) (hopens : Opens opens write plain)
    (hl : ∀ a ∈ l, plain a) (hm : ∀ a ∈ m, plain a) (hs : ∀ x ∈ s.head?, ¬opens x) (ht : ∀ x ∈ t.head?, ¬opens x)
    (heq : l.flatMap write ++ s = m.flatMap write ++ t) : l.map shown = m.map shown ∧ s = t := by
  induction l generalizing m with
  | nil =>
    cases m with
    | nil => exact ⟨rfl, heq⟩
    | cons b m =>
      obtain ⟨x, rest, hwrite, hx⟩ := hopens b (hm b List.mem_cons_self)
      rw [List.flatMap_nil, List.nil_append, List.flatMap_cons, hwrite] at heq
      exact absurd hx (hs x (by simp [heq]))
  | cons a l ih =>
    obtain ⟨ha, hl⟩ := List.forall_mem_cons.mp hl
    cases m with
    | nil =>
      obtain ⟨x, rest, hwrite, hx⟩ := hopens a ha
      rw [List.flatMap_nil, List.nil_append, List.flatMap_cons, hwrite] at heq
      exact absurd hx (ht x (by simp [← heq]))
    | cons b m =>
      obtain ⟨hb, hm⟩ := List.forall_mem_cons.mp hm
      rw [List.flatMap_cons, List.flatMap_cons, List.append_assoc, List.append_assoc] at heq
      obtain ⟨hab, heq⟩ := h ha hb heq
      obtain ⟨hlm, hst⟩ := ih hl hm heq
      exact ⟨by rw [List.map_cons, List.map_cons, hab, hlm], hst⟩

theorem intercalate_append_cons {lines : List (List Char)} (h : lines ≠ []) :
    [c].intercalate lines ++ c :: s = lines.flatMap (· ++ [c]) ++ s := by
  induction lines with
  | nil => exact absurd rfl h
  | cons line rest ih =>
    cases rest with
    | nil => simp
    | cons next rest =>
      rw [List.intercalate_cons_cons, List.flatMap_cons, List.append_assoc _ _ s, ← ih (List.cons_ne_nil _ _)]
      simp

/-- Lines that are legible up to their ends are legible together. A list may be empty. -/
theorem Legible.intercalate (h : Legible (fun a => write a ++ [c]) shown plain) (hopens : Opens opens write plain)
    (hc : ¬opens c) (hl : ∀ a ∈ l, plain a) (hm : ∀ a ∈ m, plain a) (hs : ∀ x ∈ s.head?, ¬opens x)
    (ht : ∀ x ∈ t.head?, ¬opens x)
    (heq : [c].intercalate (l.map write) ++ c :: s = [c].intercalate (m.map write) ++ c :: t) :
    l.map shown = m.map shown ∧ s = t := by
  have hends : Opens opens (fun a => write a ++ [c]) plain := fun a ha => by
    obtain ⟨x, rest, hwrite, hx⟩ := hopens a ha
    exact ⟨x, rest ++ [c], congrArg (· ++ [c]) hwrite, hx⟩
  -- A list without lines leaves just the separator behind it, with which no line begins.
  have hlines (k : List α) (u : List Char) : [c].intercalate (k.map write) ++ c :: u =
      k.flatMap (fun a => write a ++ [c]) ++ if k = [] then c :: u else u := by
    cases k with
    | nil => rfl
    | cons a k =>
      rw [intercalate_append_cons (by simp), List.flatMap_map]
      rfl
  rw [hlines, hlines] at heq
  have hhead {k : List α} {u : List Char} (hu : ∀ x ∈ u.head?, ¬opens x) :
      ∀ x ∈ (if k = [] then c :: u else u).head?, ¬opens x := by
    intro x hx
    split at hx
    · obtain rfl : c = x := by simpa using hx
      exact hc
    · exact hu x hx
  obtain ⟨hmap, hrest⟩ := Legible.flatMap h hends hl hm (hhead hs) (hhead ht) heq
  have hempty : l = [] ↔ m = [] := by
    rw [← List.map_eq_nil_iff (f := shown), hmap, List.map_eq_nil_iff]
  refine ⟨hmap, ?_⟩
  by_cases hm : m = []
  · rw [if_pos (hempty.mpr hm), if_pos hm] at hrest
    exact (List.cons.inj hrest).2
  · rwa [if_neg (mt hempty.mp hm), if_neg hm] at hrest

end Lists
end SchemaSdl.Text
