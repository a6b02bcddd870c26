import SchemaSdl.Proofs.Json.Literals

/-! What comes after the input. A reader is settled on an input if what it takes from there does not depend on the
bytes that follow. Most readers are settled on every input, since they end with a byte that they know. One that ends a
number has to look at the byte behind it, and is settled only when there is one. -/

namespace SchemaSdl.Json
variable {α β : Type} {input mid rest more tail : List UInt8} {b : UInt8} {a : α}

/-! ### Outcomes -/

section Outcomes
variable {origin : List UInt8}

theorem gives_ok {value : α} {le : mid.length ≤ origin.length} :
    Gives (.ok ⟨value, mid, le⟩ : Except Failure (Taken origin α)) a rest ↔ value = a ∧ mid = rest := by
  constructor
  · rintro ⟨_, h⟩
    cases h
    exact ⟨rfl, rfl⟩
  · rintro ⟨rfl, rfl⟩
    exact ⟨le, rfl⟩

theorem not_gives_error {failure : Failure} : ¬ Gives (.error failure : Except Failure (Taken origin α)) a rest := by
  rintro ⟨_, h⟩
  cases h

end Outcomes

namespace Reader

/-- What the reader takes from the input it takes whatever comes after. -/
def Settled (reader : Reader α) (input : List UInt8) : Prop :=
  ∀ a rest, reader.Takes input a rest → ∀ more, reader.Takes (input ++ more) a (rest ++ more)

/-- The reader is settled on every input. -/
def Firm (reader : Reader α) : Prop := ∀ input, reader.Settled input

/-- What the reader takes it takes whatever comes after, if it leaves something. -/
def Steady (reader : Reader α) : Prop :=
  ∀ input a rest, reader.Takes input a rest → rest ≠ [] → ∀ more, reader.Takes (input ++ more) a (rest ++ more)

/-- The reader takes nothing from an empty input. -/
def Refuses (reader : Reader α) : Prop := ∀ a rest, ¬ reader.Takes [] a rest

/-- The reader never takes anything. -/
def Fails (reader : Reader α) : Prop := ∀ input a rest, ¬ reader.Takes input a rest

variable {reader : Reader α} {first : Reader α} {second : α → Reader β}

theorem Takes.length_le (h : reader.Takes input a rest) : rest.length ≤ input.length := h.1

theorem takes_of_eq {taken : Taken input α} (h : reader input = .ok taken) :
    reader.Takes input taken.value taken.rest := ⟨taken.length_le, h⟩

theorem Takes.exists_of_bind {b : β} (h : (first >>= second).Takes input b rest) :
    ∃ a mid, first.Takes input a mid ∧ (second a).Takes mid b rest := by
  obtain ⟨le, h⟩ := h
  change andThen first second input = _ at h
  rw [andThen] at h
  rcases hfirst : first input with failure | taken
  · rw [hfirst] at h
    cases h
  · rw [hfirst] at h
    change (second taken.value taken.rest >>= fun last => Except.ok _) = _ at h
    rcases hnext : second taken.value taken.rest with failure | last
    · rw [hnext] at h
      cases h
    · rw [hnext] at h
      cases h
      exact ⟨_, _, takes_of_eq hfirst, takes_of_eq hnext⟩

/-! ### Failing -/

theorem fails_fail (cause : Cause) : (fail cause : Reader α).Fails := fun _ _ _ => not_gives_error

theorem fails_failAtNext (cause : Cause) : (failAtNext cause : Reader α).Fails := fun _ _ _ => not_gives_error

theorem fails_bind (h : ∀ a, (second a).Fails) : (first >>= second).Fails := by
  intro input b rest htakes
  obtain ⟨a, mid, -, hnext⟩ := htakes.exists_of_bind
  exact h a _ _ _ hnext

theorem Fails.firm (h : reader.Fails) : reader.Firm := fun _ _ _ htakes => absurd htakes (h _ _ _)

theorem Fails.refuses (h : reader.Fails) : reader.Refuses := h []

theorem Firm.steady (h : reader.Firm) : reader.Steady := fun input a rest htakes _ => h input a rest htakes

/-! ### One thing after another -/

theorem firm_pure (a : α) : (pure a : Reader α).Firm := by
  rintro input b rest ⟨_, h⟩ more
  cases h
  exact takes_pure a

theorem settled_bind (hfirst : first.Settled input)
    (hnext : ∀ a mid, first.Takes input a mid → (second a).Settled mid) : (first >>= second).Settled input := by
  intro b rest htakes more
  obtain ⟨a, mid, htakes, htakes'⟩ := htakes.exists_of_bind
  exact (hfirst a mid htakes more).bind (hnext a mid htakes b rest htakes' more)

theorem Firm.bind (hfirst : first.Firm) (hnext : ∀ a, (second a).Firm) : (first >>= second).Firm :=
  fun input => settled_bind (hfirst input) fun a mid _ => hnext a mid

theorem Firm.map (h : reader.Firm) (f : α → β) : (do return f (← reader)).Firm := h.bind fun a => firm_pure (f a)

theorem Steady.bind (hfirst : first.Steady) (hnext : ∀ a, (second a).Steady) : (first >>= second).Steady := by
  intro input b rest htakes hne more
  obtain ⟨a, mid, htakes, htakes'⟩ := htakes.exists_of_bind
  -- What is left in the end was there in between.
  have hmid : mid ≠ [] := by
    rintro rfl
    exact hne (List.eq_nil_of_length_eq_zero (Nat.le_zero.mp htakes'.length_le))
  exact (hfirst input a mid htakes hmid more).bind (hnext a mid b rest htakes' hne more)

theorem Refuses.bind (h : first.Refuses) : (first >>= second).Refuses := by
  intro b rest htakes
  obtain ⟨a, mid, hfirst, -⟩ := htakes.exists_of_bind
  exact h a mid hfirst

theorem Takes.of_within {step : Step} (h : (Reader.within step reader).Takes input a rest) :
    reader.Takes input a rest := by
  obtain ⟨le, h⟩ := h
  rw [Reader.within] at h
  split at h
  · rename_i taken htaken
    cases h
    exact takes_of_eq htaken
  · cases h

theorem Settled.within (h : reader.Settled input) (step : Step) : (Reader.within step reader).Settled input :=
  fun a rest htakes more => (h a rest (Takes.of_within htakes) more).within step

theorem Firm.within (h : reader.Firm) (step : Step) : (Reader.within step reader).Firm :=
  fun input => (h input).within step

theorem Steady.within (h : reader.Steady) (step : Step) : (Reader.within step reader).Steady :=
  fun input a rest htakes hne more => (h input a rest (Takes.of_within htakes) hne more).within step

/-! ### Bytes -/

theorem dropWhile_append {test : UInt8 → Bool} (h : input.dropWhile test = b :: rest) (more : List UInt8) :
    (input ++ more).dropWhile test = b :: (rest ++ more) := by
  rw [List.dropWhile_append, h]
  rfl

theorem Takes.eq_of_peek {ahead : Option UInt8} (h : peek.Takes input ahead rest) :
    ahead = input.head? ∧ rest = input := by
  obtain ⟨_, h⟩ := h
  cases h
  exact ⟨rfl, rfl⟩

theorem Takes.eq_of_next {ahead : Option UInt8} (h : next.Takes input ahead rest) :
    ahead = input.head? ∧ rest = input.tail := by
  obtain ⟨_, h⟩ := h
  cases h
  exact ⟨rfl, rfl⟩

theorem Takes.eq_of_skipByte (h : skipByte.Takes input () rest) : rest = input.tail := by
  obtain ⟨_, h⟩ := h
  cases h
  rfl

theorem settled_skipByte : skipByte.Settled (b :: tail) := by
  intro _ rest h more
  obtain rfl := h.eq_of_skipByte
  exact takes_skipByte

theorem settled_skipByte_bind {k : Unit → Reader β} (h : (k ()).Settled tail) :
    (skipByte >>= k).Settled (b :: tail) := by
  refine settled_bind settled_skipByte fun _ mid hmid => ?_
  obtain rfl := hmid.eq_of_skipByte
  exact h

theorem Takes.front_of_peekToken {ahead : Option UInt8} (h : peekToken.Takes input ahead rest) :
    input.dropWhile isBlank = rest ∧ ahead = rest.head? := by
  obtain ⟨_, mid, ⟨_, hskip⟩, hpeek⟩ := h.exists_of_bind
  cases hskip
  obtain ⟨rfl, rfl⟩ := hpeek.eq_of_peek
  exact ⟨rfl, rfl⟩

/-- A reader that goes on with the byte behind the blanks is firm if it cannot do without that byte. -/
theorem firm_peekToken_bind {k : Option UInt8 → Reader β} (hnone : (k none).Refuses)
    (hsome : ∀ b tail, (k (some b)).Settled (b :: tail)) : (peekToken >>= k).Firm := by
  intro input a rest htakes more
  obtain ⟨ahead, mid, hpeek, hk⟩ := htakes.exists_of_bind
  obtain ⟨hfront, rfl⟩ := hpeek.front_of_peekToken
  cases mid with
  | nil => exact absurd hk (hnone a rest)
  | cons b tail =>
    exact (takes_peekToken (dropWhile_append hfront more)).bind (hsome b tail a rest hk more)

theorem refuses_peekToken_bind {k : Option UInt8 → Reader β} (hnone : (k none).Refuses) :
    (peekToken >>= k).Refuses := by
  intro a rest htakes
  obtain ⟨ahead, mid, hpeek, hk⟩ := htakes.exists_of_bind
  obtain ⟨rfl, rfl⟩ := hpeek.front_of_peekToken
  exact hnone a rest hk

theorem firm_next_bind {k : Option UInt8 → Reader β} (hnone : (k none).Refuses) (hsome : ∀ b, (k (some b)).Firm) :
    (next >>= k).Firm := by
  intro input a rest htakes more
  obtain ⟨ahead, mid, hnext, hk⟩ := htakes.exists_of_bind
  obtain ⟨rfl, rfl⟩ := hnext.eq_of_next
  cases input with
  | nil => exact absurd hk (hnone a rest)
  | cons b tail => exact takes_next.bind (hsome b tail a rest hk more)

theorem firm_wordRest (word : List UInt8) : (wordRest word).Firm := by
  induction word with
  | nil => exact firm_pure ()
  | cons expected word ih =>
    refine firm_next_bind (fails_fail _).refuses fun b => ?_
    dsimp only
    split
    · exact ih
    · exact (fails_fail _).firm

/-! ### Literals -/

theorem firm_hexEscape : hexEscape.Firm := by
  rintro input n rest ⟨le, h⟩ more
  rw [hexEscape] at h
  split at h
  · cases h
  · rename_i hlen
    have hfour : 4 ≤ input.length := by
      rw [List.length_take] at hlen
      omega
    split at h
    · rename_i n hn
      cases h
      refine ⟨by simp, ?_⟩
      rw [hexEscape]
      simp only [List.take_append_of_le_length hfour, List.drop_append_of_le_length hfour]
      rw [if_neg hlen, hn]
    · cases h

theorem firm_escapeByte (expected : UInt8) : (escapeByte expected).Firm := by
  refine firm_next_bind (fails_fail _).refuses fun b => ?_
  dsimp only
  split
  · exact firm_pure ()
  · exact (fails_fail _).firm

theorem firm_codePointEscape : codePointEscape.Firm := by
  refine firm_hexEscape.bind fun n => ?_
  split
  · exact (fails_fail _).firm
  split
  · refine (firm_escapeByte _).bind fun _ => (firm_escapeByte _).bind fun _ => firm_hexEscape.bind fun trailing => ?_
    split
    · exact firm_pure _
    · exact (fails_fail _).firm
  · exact firm_pure _

theorem firm_escape : escape.Firm := by
  refine firm_next_bind (fails_fail _).refuses fun b => ?_
  split
  · rename_i h
    cases h
  · exact firm_codePointEscape
  · split
    · exact firm_pure _
    · exact (fails_fail _).firm

theorem firm_skipEscape : skipEscape.Firm := by
  refine firm_next_bind (fails_fail _).refuses fun b => ?_
  split
  · rename_i h
    cases h
  · exact firm_hexEscape.bind fun _ => firm_pure ()
  · split
    · exact firm_pure _
    · exact (fails_fail _).firm

theorem take_append_of_eq {front : List UInt8} {n : Nat} (h : input.take n = front) (hlen : front.length = n)
    (more : List UInt8) : (input ++ more).take n = front ∧ n ≤ input.length := by
  have hle : n ≤ input.length := by
    rw [← h, List.length_take] at hlen
    omega
  exact ⟨by rw [List.take_append_of_le_length hle, h], hle⟩

theorem character?_append {c : Char} {width : Nat} (h : character? input = some (c, width)) (more : List UInt8) :
    width ≤ input.length ∧ character? (input ++ more) = some (c, width) := by
  cases input with
  | nil => cases h
  | cons b rest =>
    rw [List.cons_append]
    rw [character?] at h ⊢
    -- A character of one byte, and then of two, three and four, which are the bytes that have to be there.
    split at h
    · rename_i hb
      obtain ⟨_, -, hc⟩ := Option.map_eq_some_iff.mp h
      cases hc
      exact ⟨Nat.succ_le_succ (Nat.zero_le _), by rw [if_pos hb, h]⟩
    rename_i hb
    rw [if_neg hb]
    split at h
    · rename_i hb
      split at h
      · rename_i hfront
        obtain ⟨hfront, hle⟩ := take_append_of_eq hfront rfl more
        obtain ⟨_, -, hrest⟩ := Option.bind_eq_some_iff.mp h
        obtain ⟨_, -, hc⟩ := Option.bind_eq_some_iff.mp hrest
        cases hc
        exact ⟨Nat.succ_le_succ hle, by rw [if_pos hb, hfront]; exact h⟩
      · cases h
    rename_i hb
    rw [if_neg hb]
    split at h
    · rename_i hb
      split at h
      · rename_i hfront
        obtain ⟨hfront, hle⟩ := take_append_of_eq hfront rfl more
        obtain ⟨_, -, hrest⟩ := Option.bind_eq_some_iff.mp h
        obtain ⟨_, -, hrest⟩ := Option.bind_eq_some_iff.mp hrest
        obtain ⟨_, -, hc⟩ := Option.bind_eq_some_iff.mp hrest
        cases hc
        exact ⟨Nat.succ_le_succ hle, by rw [if_pos hb, hfront]; exact h⟩
      · cases h
    rename_i hb
    rw [if_neg hb]
    split at h
    · rename_i hb
      split at h
      · rename_i hfront
        obtain ⟨hfront, hle⟩ := take_append_of_eq hfront rfl more
        obtain ⟨_, -, hrest⟩ := Option.bind_eq_some_iff.mp h
        obtain ⟨_, -, hrest⟩ := Option.bind_eq_some_iff.mp hrest
        obtain ⟨_, -, hrest⟩ := Option.bind_eq_some_iff.mp hrest
        obtain ⟨_, -, hc⟩ := Option.bind_eq_some_iff.mp hrest
        cases hc
        exact ⟨Nat.succ_le_succ hle, by rw [if_pos hb, hfront]; exact h⟩
      · cases h
    · cases h

section From
variable {origin origin' : List UInt8} {chars : List Char} {broken : Option Nat} {s : String}

/-- A literal with bytes that are no character is never read to its end. -/
theorem not_gives_of_broken {unread : Nat} {le : input.length ≤ origin.length} :
    ¬ Gives (literalFrom chars (some unread) input le) s rest := by
  generalize hbroken : some unread = broken
  fun_induction literalFrom chars broken input le with
  | case1 => exact not_gives_error
  | case2 => cases hbroken
  | case3 => exact not_gives_error
  | case4 => exact not_gives_error
  | case5 _ _ _ _ _ _ _ _ ih => exact ih hbroken
  | case6 => exact not_gives_error
  | case7 _ _ _ _ _ _ _ _ _ _ _ _ ih => exact ih hbroken
  | case8 _ _ _ _ _ _ _ _ _ _ ih =>
    subst hbroken
    exact ih rfl

theorem literalFrom_append {le : input.length ≤ origin.length} {le' : (input ++ more).length ≤ origin'.length}
    (h : Gives (literalFrom chars broken input le) s rest) :
    Gives (literalFrom chars broken (input ++ more) le') s (rest ++ more) := by
  fun_induction literalFrom chars broken input le with
  | case1 => exact absurd h not_gives_error
  | case2 =>
    obtain ⟨rfl, rfl⟩ := gives_ok.mp h
    rw [literalFrom.eq_def]
    exact gives_ok.mpr ⟨rfl, rfl⟩
  | case3 => exact absurd h not_gives_error
  | case4 => exact absurd h not_gives_error
  | case5 chars broken tail taken htaken _ _ _ ih =>
    obtain ⟨_, hnext⟩ := literalFrom_escape (firm_escape tail _ _ (takes_of_eq htaken) more)
    dsimp only [List.cons_append]
    rw [hnext]
    exact ih h
  | case6 => exact absurd h not_gives_error
  | case7 chars broken b tail _ hquote hescape hcontrol c width hc _ ih =>
    obtain ⟨hwidth, hc⟩ := character?_append hc more
    rw [List.cons_append] at hc
    rw [literalFrom.eq_def]
    dsimp only [List.cons_append]
    rw [if_neg hquote, if_neg hescape, if_neg hcontrol]
    have hdrop : (tail ++ more).drop (width - 1) = tail.drop (width - 1) ++ more :=
      List.drop_append_of_le_length (Nat.sub_le_of_le_add hwidth)
    simp only [hc, hdrop]
    exact ih h
  | case8 chars broken =>
    -- What comes after could complete the character, but then nothing has been read at all.
    cases broken with
    | none => exact absurd h not_gives_of_broken
    | some unread => exact absurd h not_gives_of_broken

theorem firm_literal : literal.Firm := fun _ _ _ h _ => literalFrom_append h

theorem skipLiteralFrom_append {le : input.length ≤ origin.length} {le' : (input ++ more).length ≤ origin'.length}
    (h : Gives (skipLiteralFrom input le) () rest) :
    Gives (skipLiteralFrom (input ++ more) le') () (rest ++ more) := by
  fun_induction skipLiteralFrom input le with
  | case1 => exact absurd h not_gives_error
  | case2 =>
    obtain ⟨-, rfl⟩ := gives_ok.mp h
    rw [skipLiteralFrom.eq_def]
    exact gives_ok.mpr ⟨rfl, rfl⟩
  | case3 => exact absurd h not_gives_error
  | case4 tail taken htaken _ _ _ ih =>
    obtain ⟨_, hnext⟩ := skipLiteralFrom_escape (firm_skipEscape tail _ _ (takes_of_eq htaken) more)
    dsimp only [List.cons_append]
    rw [hnext]
    exact ih h
  | case5 => exact absurd h not_gives_error
  | case6 b tail _ hquote hescape hcontrol _ ih =>
    rw [skipLiteralFrom.eq_def]
    dsimp only [List.cons_append]
    rw [if_neg hquote, if_neg hescape, if_neg hcontrol]
    exact ih h

theorem firm_skipLiteral : skipLiteral.Firm := fun _ _ _ h _ => skipLiteralFrom_append h

end From
end Reader
end SchemaSdl.Json
