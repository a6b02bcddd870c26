import Mathlib
import SchemaSdl.Proofs.Legible
import SchemaSdl.Text.Difference

/-! What is reported of two texts: the first line that they do not have in common, and if there is none, that they have
the same lines. Then they are the same but for how their lines end and for a line feed at the end of one of them. -/

namespace SchemaSdl.Text

/-! ### Lists of lines -/

section Lines
variable {expected actual : List String} {e a : String} {n line : Nat}

/-- Two lists of lines share so many lines at their beginning and not the next one: the next lines are not the same, or
just one of the lists is at its end. -/
def DifferAt (n : Nat) (expected actual : List String) : Prop :=
  n ≤ expected.length ∧ n ≤ actual.length ∧ expected.take n = actual.take n ∧ expected[n]? ≠ actual[n]?

theorem differAt_zero : DifferAt 0 expected actual ↔ expected.head? ≠ actual.head? := by
  simp [DifferAt, List.head?_eq_getElem?]

theorem differAt_succ : DifferAt (n + 1) (e :: expected) (a :: actual) ↔ e = a ∧ DifferAt n expected actual := by
  simp only [DifferAt, List.length_cons, Nat.add_le_add_iff_right, List.take_succ_cons, List.cons.injEq,
    List.getElem?_cons_succ]
  tauto

theorem differenceFrom_self (line : Nat) (expected : List String) : differenceFrom line expected expected = none := by
  induction expected generalizing line with
  | nil => rfl
  | cons e expected ih => rw [differenceFrom, if_pos rfl, ih]

/-- As long as lines are the same, the search goes on with the next ones and counts them. -/
theorem differenceFrom_of_differAt (h : DifferAt n expected actual) :
    differenceFrom line expected actual = some ⟨line + n, expected[n]?, actual[n]?⟩ := by
  induction n generalizing line expected actual with
  | zero =>
    rw [differAt_zero] at h
    cases expected with
    | nil =>
      cases actual with
      | nil => exact absurd rfl h
      | cons a actual => rfl
    | cons e expected =>
      cases actual with
      | nil => rfl
      | cons a actual => rw [differenceFrom, if_neg (by simpa using h)]; rfl
  | succ n ih =>
    cases expected with
    | nil => exact absurd h.1 (by simp)
    | cons e expected =>
      cases actual with
      | nil => exact absurd h.2.1 (by simp)
      | cons a actual =>
        obtain ⟨rfl, hrest⟩ := differAt_succ.mp h
        rw [differenceFrom, if_pos rfl, ih hrest, Nat.add_right_comm]
        rfl

theorem exists_differAt (h : expected ≠ actual) : ∃ n, DifferAt n expected actual := by
  induction expected generalizing actual with
  | nil =>
    cases actual with
    | nil => exact absurd rfl h
    | cons a actual => exact ⟨0, differAt_zero.mpr (by simp)⟩
  | cons e expected ih =>
    cases actual with
    | nil => exact ⟨0, differAt_zero.mpr (by simp)⟩
    | cons a actual =>
      by_cases hea : e = a
      · obtain ⟨n, hn⟩ := ih fun hrest => h (by rw [hea, hrest])
        exact ⟨n + 1, differAt_succ.mpr ⟨hea, hn⟩⟩
      · exact ⟨0, differAt_zero.mpr (by simpa using hea)⟩

end Lines

/-! ### Reports -/

/-- The number of the line can be read off a report. -/
theorem line_of_differenceText_eq {a b : Difference} (h : differenceText (some a) = differenceText (some b)) :
    a.line = b.line := by
  have hdigits (n : Nat) : ∀ c ∈ n.repr.toList, c.isDigit = true := fun c hc =>
    Nat.isDigit_of_mem_toDigits (by decide) (by decide) (Nat.toList_repr ▸ hc)
  have hlist := congrArg String.toList h
  simp only [differenceText, String.toList_append, List.append_assoc, List.append_cancel_left_eq] at hlist
  obtain ⟨hline, -⟩ := append_cons_cancel (p := fun c => c.isDigit = true) (hdigits a.line) (hdigits b.line)
    (c := ':') (d := ':') (by decide) (by decide) hlist
  exact Nat.repr_injective (String.toList_injective hline)

theorem differenceText_none_ne (d : Difference) : differenceText none ≠ differenceText (some d) := by
  intro h
  have hlist := congrArg (fun text => text.toList[2]?) h
  simp [differenceText] at hlist

/-! ### Texts by their lines -/

section Texts
variable {text rest : List Char}

/-- A text is one line without an end, or a line with an end in front of a text. -/
theorem line_induction {motive : List Char → Prop} (last : ∀ text, '\n' ∉ text → motive text)
    (line : ∀ text rest, '\n' ∉ text → motive rest → motive (text ++ '\n' :: rest)) (text : List Char) :
    motive text := by
  have hmore (rest text : List Char) (htext : '\n' ∉ text) : motive (text ++ rest) := by
    induction rest generalizing text with
    | nil => simpa using last text htext
    | cons c rest ih =>
      by_cases hc : c = '\n'
      · rw [hc]
        exact line text rest htext (ih [] List.not_mem_nil)
      · have hlonger := ih (text ++ [c]) (by simp [htext, Ne.symm hc])
        rwa [List.append_assoc] at hlonger
  exact hmore text [] List.not_mem_nil

theorem linesOf_of_last (h : '\n' ∉ text) : linesOf (cut '\n' text) = if text = [] then [] else [text] := by
  rw [cut_of_not_mem h, linesOf]

theorem linesOf_of_line (h : '\n' ∉ text) :
    linesOf (cut '\n' (text ++ '\n' :: rest)) = withoutReturn text :: linesOf (cut '\n' rest) := by
  rw [cut_append_cons, cut_of_not_mem h, List.singleton_append, linesOf]
  exact cut_ne_nil _ _

theorem linesOf_eq_nil_iff : linesOf (cut '\n' text) = [] ↔ text = [] := by
  induction text using line_induction with
  | last text h => simp [linesOf_of_last h]
  | line text rest h ih => simp [linesOf_of_line h]

theorem feed_not_mem_linesOf : ∀ l ∈ linesOf (cut '\n' text), '\n' ∉ l := by
  induction text using line_induction with
  | last text h =>
    intro l hl
    rw [linesOf_of_last h] at hl
    split at hl
    · cases hl
    · rwa [List.mem_singleton.mp hl]
  | line text rest h ih =>
    rw [linesOf_of_line h, List.forall_mem_cons]
    refine ⟨fun hfeed => h ?_, ih⟩
    unfold withoutReturn at hfeed
    split at hfeed
    · exact List.mem_of_mem_dropLast hfeed
    · exact hfeed

/-! ### Ends of lines -/

/-- A text with each carriage return in front of a line feed left out. -/
def withoutReturns : List Char → List Char
  | [] => []
  | '\r' :: '\n' :: rest => '\n' :: withoutReturns rest
  | c :: rest => c :: withoutReturns rest

/-- A text without the line feed at its end, if there is one. -/
def withoutLastFeed (text : List Char) : List Char := if text.getLast? = some '\n' then text.dropLast else text

/-- A text with a line feed for each carriage return and line feed, and then without the line feed at its end. -/
def unified (text : String) : String := String.ofList (withoutLastFeed (withoutReturns text.toList))

theorem withoutReturns_cons {c : Char} (h : ∀ more, c = '\r' → rest = '\n' :: more → False) :
    withoutReturns (c :: rest) = c :: withoutReturns rest := withoutReturns.eq_3 _ _ h

theorem withoutReturns_of_last (h : '\n' ∉ text) : withoutReturns text = text := by
  induction text with
  | nil => rfl
  | cons c text ih =>
    rw [List.mem_cons, not_or] at h
    obtain ⟨-, htext⟩ := h
    rw [withoutReturns_cons, ih htext]
    rintro more - rfl
    exact htext List.mem_cons_self

theorem withoutReturns_of_line (h : '\n' ∉ text) :
    withoutReturns (text ++ '\n' :: rest) = withoutReturn text ++ '\n' :: withoutReturns rest := by
  induction text with
  | nil => exact withoutReturns_cons (fun _ hc => absurd hc (by decide))
  | cons c text ih =>
    rw [List.mem_cons, not_or] at h
    obtain ⟨-, htext⟩ := h
    cases text with
    | nil =>
      by_cases hc : c = '\r'
      · rw [hc]
        rfl
      · have hline : withoutReturn [c] = [c] := by simp [withoutReturn, hc]
        rw [List.singleton_append, withoutReturns_cons (fun _ heq => absurd heq hc),
          withoutReturns_cons (fun _ heq => absurd heq (by decide)), hline, List.singleton_append]
    | cons d text =>
      have hline : withoutReturn (c :: d :: text) = c :: withoutReturn (d :: text) := by
        unfold withoutReturn
        rw [List.getLast?_cons_cons, List.dropLast_cons_cons]
        split <;> rfl
      rw [List.cons_append, withoutReturns_cons, ih htext, hline, List.cons_append]
      rintro more - heq
      obtain ⟨rfl, -⟩ := List.cons.inj heq
      exact htext List.mem_cons_self

theorem withoutReturns_eq_nil_iff : withoutReturns text = [] ↔ text = [] := by
  fun_cases withoutReturns text <;> simp_all

theorem withoutLastFeed_of_last (h : '\n' ∉ text) : withoutLastFeed text = text :=
  if_neg fun hlast => h (List.mem_of_getLast? hlast)

theorem withoutLastFeed_of_line :
    withoutLastFeed (text ++ '\n' :: rest) = if rest = [] then text else text ++ '\n' :: withoutLastFeed rest := by
  cases rest with
  | nil => simp [withoutLastFeed]
  | cons c rest =>
    rw [if_neg (List.cons_ne_nil _ _)]
    unfold withoutLastFeed
    rw [List.getLast?_append_of_ne_nil _ (List.cons_ne_nil _ _), List.getLast?_cons_cons,
      List.dropLast_append_of_ne_nil (List.cons_ne_nil _ _), List.dropLast_cons_cons]
    split <;> rfl

/-- The lines of a text, with a line feed between each and the next one, are the text with its ends of lines unified. -/
theorem intercalate_linesOf :
    ['\n'].intercalate (linesOf (cut '\n' text)) = withoutLastFeed (withoutReturns text) := by
  induction text using line_induction with
  | last text h =>
    rw [linesOf_of_last h, withoutReturns_of_last h, withoutLastFeed_of_last h]
    split
    · rw [‹text = []›]
      rfl
    · rw [List.intercalate_singleton]
  | line text rest h ih =>
    rw [linesOf_of_line h, withoutReturns_of_line h, withoutLastFeed_of_line, ← ih]
    by_cases hrest : rest = []
    · rw [if_pos (withoutReturns_eq_nil_iff.mpr hrest), linesOf_eq_nil_iff.mpr hrest, List.intercalate_singleton]
    · rw [if_neg (mt withoutReturns_eq_nil_iff.mp hrest), List.intercalate_cons_of_ne_nil (mt linesOf_eq_nil_iff.mp hrest)]
      simp

end Texts

/-- Texts have the same lines if they are the same once their ends of lines are unified, unless just one of them is
empty. -/
theorem lines_eq_iff {expected actual : String} :
    lines expected = lines actual ↔ unified expected = unified actual ∧ (expected = "" ↔ actual = "") := by
  have hlines : lines expected = lines actual ↔
      linesOf (cut '\n' expected.toList) = linesOf (cut '\n' actual.toList) :=
    (List.map_injective_iff.mpr fun _ _ => String.ofList_injective).eq_iff
  have hunified : unified expected = unified actual ↔
      ['\n'].intercalate (linesOf (cut '\n' expected.toList)) =
        ['\n'].intercalate (linesOf (cut '\n' actual.toList)) := by
    rw [intercalate_linesOf, intercalate_linesOf]
    exact ⟨fun h => String.ofList_injective h, congrArg String.ofList⟩
  have hempty (text : String) : text = "" ↔ linesOf (cut '\n' text.toList) = [] := by
    rw [linesOf_eq_nil_iff, String.toList_eq_nil_iff]
  rw [hlines, hunified, hempty, hempty]
  constructor
  · intro h
    rw [h]
    exact ⟨rfl, Iff.rfl⟩
  · rintro ⟨hjoined, hnil⟩
    by_cases hexpected : linesOf (cut '\n' expected.toList) = []
    · rw [hexpected, hnil.mp hexpected]
    · rw [← cut_intercalate hexpected feed_not_mem_linesOf, hjoined,
        cut_intercalate (mt hnil.mpr hexpected) feed_not_mem_linesOf]

/-- What is reported of two texts. It names a line, counted from one, and shows it as it is in each text, or that the
text has come to its end, exactly if the texts have all lines before it in common and not this one. It says that there
is no such line exactly if the texts have the same lines, and one of the two is always the case. Texts with the same
lines are those that are the same after unifying the ends of their lines, other than an empty text and a line feed. -/
theorem report_of_firstDifference (expected actual : String) :
    let report := differenceText (firstDifference expected actual)
    (∀ n, report = "  line " ++ toString (n + 1) ++ ":\n    expected: " ++ (lines expected)[n]?.getD "<end>"
        ++ "\n    actual:   " ++ (lines actual)[n]?.getD "<end>" ↔ DifferAt n (lines expected) (lines actual)) ∧
    (report = "  outputs differ only in trailing whitespace" ↔ lines expected = lines actual) ∧
    ((∃ n, DifferAt n (lines expected) (lines actual)) ∨ lines expected = lines actual) ∧
    (lines expected = lines actual ↔ unified expected = unified actual ∧ (expected = "" ↔ actual = "")) := by
  have hdiffer {n : Nat} (h : DifferAt n (lines expected) (lines actual)) : firstDifference expected actual =
      some ⟨n + 1, (lines expected)[n]?, (lines actual)[n]?⟩ := by
    rw [firstDifference, differenceFrom_of_differAt h, Nat.add_comm]
  have hsame (h : lines expected = lines actual) : firstDifference expected actual = none := by
    rw [firstDifference, h, differenceFrom_self]
  have hsome (h : lines expected ≠ lines actual) : ∃ n, DifferAt n (lines expected) (lines actual) := exists_differAt h
  refine ⟨fun n => ⟨fun hreport => ?_, fun h => congrArg differenceText (hdiffer h)⟩,
    ⟨fun hreport => ?_, fun h => congrArg differenceText (hsame h)⟩, ?_, lines_eq_iff⟩
  · by_cases h : lines expected = lines actual
    · rw [hsame h] at hreport
      exact absurd hreport (differenceText_none_ne ⟨n + 1, (lines expected)[n]?, (lines actual)[n]?⟩)
    · obtain ⟨m, hm⟩ := hsome h
      rw [hdiffer hm] at hreport
      have hline : m + 1 = n + 1 :=
        line_of_differenceText_eq (b := ⟨n + 1, (lines expected)[n]?, (lines actual)[n]?⟩) hreport
      rwa [← Nat.succ.inj hline]
  · by_contra h
    obtain ⟨m, hm⟩ := hsome h
    rw [hdiffer hm] at hreport
    exact absurd hreport.symm (differenceText_none_ne _)
  · by_cases h : lines expected = lines actual
    · exact .inr h
    · exact .inl (hsome h)

/-- A carriage return belongs to the end of a line only in front of a line feed. -/
example : firstDifference "a\r\nb\r" "a\nb\n" = some ⟨2, some "b\r", some "b"⟩ := by
  decide

end SchemaSdl.Text
