import SchemaSdl.Proofs.Json.Settled
import SchemaSdl.Proofs.Json.Skipping

/-! What comes after a value that is passed over. A number goes on for as long as there are digits, so its reader is
steady and no more; all that stands inside a list or an object has something behind it. -/

namespace SchemaSdl.Json

namespace Reader
variable {α : Type}

/-! ### Bytes up to one that does not belong to them -/

theorem steady_peek : peek.Steady := by
  intro input ahead rest h hne more
  obtain ⟨rfl, rfl⟩ := h.eq_of_peek
  obtain ⟨b, tail, rfl⟩ := List.exists_cons_of_ne_nil hne
  exact takes_peek

theorem steady_next : next.Steady := by
  intro input ahead rest h hne more
  obtain ⟨rfl, rfl⟩ := h.eq_of_next
  cases input with
  | nil => exact absurd rfl hne
  | cons b tail => exact takes_next

theorem steady_next_bind {k : Option UInt8 → Reader α} (hnone : (k none).Fails) (hsome : ∀ b, (k (some b)).Steady) :
    (next >>= k).Steady := by
  refine steady_next.bind fun ahead => ?_
  cases ahead with
  | none => exact hnone.firm.steady
  | some b => exact hsome b

theorem steady_skipByte : skipByte.Steady := by
  intro input _ rest h hne more
  obtain rfl := h.eq_of_skipByte
  cases input with
  | nil => exact absurd rfl hne
  | cons b tail => exact takes_skipByte

theorem steady_takeWhile (test : UInt8 → Bool) : (takeWhile test).Steady := by
  rintro input bs rest ⟨_, h⟩ hne more
  cases h
  obtain ⟨b, tail, hrest⟩ := List.exists_cons_of_ne_nil hne
  have htake : (input ++ more).takeWhile test = input.takeWhile test := by
    have hlen := congrArg List.length (List.takeWhile_append_dropWhile (p := test) (l := input))
    rw [List.length_append, hrest, List.length_cons] at hlen
    rw [List.takeWhile_append, if_neg (by omega)]
  have hafter := dropWhile_append hrest more
  rw [← htake, hrest, List.cons_append, ← hafter]
  exact ⟨_, rfl⟩

theorem steady_skipWhile (test : UInt8 → Bool) : (skipWhile test).Steady := by
  rintro input _ rest ⟨_, h⟩ hne more
  cases h
  obtain ⟨b, tail, hrest⟩ := List.exists_cons_of_ne_nil hne
  have hafter := dropWhile_append hrest more
  rw [hrest, List.cons_append, ← hafter]
  exact ⟨_, rfl⟩

/-! ### Numbers -/

theorem steady_skipExponent : skipExponent.Steady := by
  have hdigits (b : UInt8) : (if isDigit b then skipWhile isDigit else fail .numberBroken : Reader Unit).Steady := by
    split
    · exact steady_skipWhile _
    · exact (fails_fail _).firm.steady
  refine steady_skipByte.bind fun _ => steady_peek.bind fun ahead => ?_
  dsimp only
  split
  · exact steady_skipByte.bind fun _ => steady_next_bind (fails_fail _) hdigits
  · exact steady_skipByte.bind fun _ => steady_next_bind (fails_fail _) hdigits
  · exact steady_next_bind (fails_fail _) hdigits

theorem steady_skipFraction : skipFraction.Steady := by
  refine steady_skipByte.bind fun _ => (steady_takeWhile _).bind fun digits => ?_
  split
  · exact (fails_failAtNext _).firm.steady
  · refine steady_peek.bind fun ahead => ?_
    split
    · exact steady_skipExponent
    · exact steady_skipExponent
    · exact (firm_pure ()).steady

theorem steady_skipAfterWhole : skipAfterWhole.Steady := by
  refine steady_peek.bind fun ahead => ?_
  split
  · exact steady_skipFraction
  · exact steady_skipExponent
  · exact steady_skipExponent
  · exact (firm_pure ()).steady

theorem steady_skipNumber (first : UInt8) : (skipNumber first).Steady := by
  rw [skipNumber]
  split
  · refine steady_peek.bind fun ahead => ?_
    split
    · split
      · exact (fails_failAtNext _).firm.steady
      · exact steady_skipAfterWhole
    · exact steady_skipAfterWhole
  split
  · exact (steady_skipWhile _).bind fun _ => steady_skipAfterWhole
  · exact (fails_fail _).firm.steady

/-! ### Values without parts -/

theorem steady_skipPlain (first : UInt8) : (skipPlain first).Steady := by
  rw [skipPlain]
  split
  · exact (firm_wordRest _).steady
  split
  · exact (firm_wordRest _).steady
  split
  · exact (firm_wordRest _).steady
  split
  · exact firm_skipLiteral.steady
  split
  · exact steady_next_bind (fails_fail _) steady_skipNumber
  · exact steady_skipNumber _

theorem firm_skipLabel (enclosure : Enclosure) : (skipLabel enclosure).Firm := by
  cases enclosure with
  | list => exact firm_pure ()
  | object =>
    refine firm_peekToken_bind (fails_failAtNext _).refuses fun b tail => ?_
    split
    · refine settled_skipByte_bind ((firm_skipLiteral.bind fun _ => ?_) tail)
      refine firm_peekToken_bind (fails_failAtNext _).refuses fun b tail => ?_
      split
      · exact settled_skipByte
      · exact (fails_failAtNext _).firm _
      · exact (fails_failAtNext _).firm _
    · exact (fails_failAtNext _).firm _
    · exact (fails_failAtNext _).firm _

end Reader

/-! ### Values with parts -/

open Reader
variable {input mid last : List UInt8}

theorem PassesPlain.append (h : PassesPlain input mid) (hne : mid ≠ []) (more : List UInt8) :
    PassesPlain (input ++ more) (mid ++ more) := by
  obtain ⟨b, tail, hfront, hlist, hobject, hopens, htakes⟩ := h
  exact ⟨b, tail ++ more, dropWhile_append hfront more, hlist, hobject, hopens,
    steady_skipPlain b tail () mid htakes hne more⟩

/-- Where passing over has come to inside some enclosures: to a value, to the parts of an enclosure, or to what follows
a value. -/
inductive Stage where
  | value (enclosures : List Enclosure)
  | parts (enclosure : Enclosure) (enclosures : List Enclosure)
  | rest (enclosures : List Enclosure)

namespace Stage

def skip {origin : List UInt8} (stage : Stage) (input : List UInt8) (le : input.length ≤ origin.length) :
    Except Failure (Taken origin Unit) :=
  match stage with
  | .value enclosures => skipValueIn enclosures input le
  | .parts enclosure enclosures => skipPartsOf enclosure enclosures input le
  | .rest enclosures => skipRestOf enclosures input le

/-- What is left of an input when everything has been passed over, step by step. -/
inductive Leaves : Stage → List UInt8 → List UInt8 → Prop
  | done {input : List UInt8} : Leaves (.rest []) input input
  | plain {enclosures : List Enclosure} {input mid last : List UInt8} (hplain : PassesPlain input mid)
      (h : Leaves (.rest enclosures) mid last) : Leaves (.value enclosures) input last
  | list {enclosures : List Enclosure} {input tail last : List UInt8}
      (hfront : input.dropWhile isBlank = 0x5B :: tail) (h : Leaves (.parts .list enclosures) tail last) : Leaves (.value enclosures) input last
  | object {enclosures : List Enclosure} {input tail last : List UInt8}
      (hfront : input.dropWhile isBlank = 0x7B :: tail) (h : Leaves (.parts .object enclosures) tail last) : Leaves (.value enclosures) input last
  | empty {enclosure : Enclosure} {enclosures : List Enclosure} {input tail last : List UInt8}
      (hfront : input.dropWhile isBlank = enclosure.close :: tail) (h : Leaves (.rest enclosures) tail last) :
      Leaves (.parts enclosure enclosures) input last
  | part {enclosure : Enclosure} {enclosures : List Enclosure} {b : UInt8} {input tail mid last : List UInt8}
      (hfront : input.dropWhile isBlank = b :: tail) (hb : b ≠ enclosure.close)
      (hlabel : (skipLabel enclosure).Takes input () mid) (h : Leaves (.value (enclosure :: enclosures)) mid last) :
      Leaves (.parts enclosure enclosures) input last
  | close {enclosure : Enclosure} {enclosures : List Enclosure} {input tail last : List UInt8}
      (hfront : input.dropWhile isBlank = enclosure.close :: tail) (h : Leaves (.rest enclosures) tail last) :
      Leaves (.rest (enclosure :: enclosures)) input last
  | comma {enclosure : Enclosure} {enclosures : List Enclosure} {input tail mid last : List UInt8}
      (hfront : input.dropWhile isBlank = 0x2C :: tail) (hlabel : (skipLabel enclosure).Takes tail () mid)
      (h : Leaves (.value (enclosure :: enclosures)) mid last) : Leaves (.rest (enclosure :: enclosures)) input last

variable {origin : List UInt8} {stage : Stage}

theorem gives_of_leaves (h : stage.Leaves input last) (le : input.length ≤ origin.length) :
    Gives (stage.skip input le) () last := by
  induction h with
  | done =>
    rw [skip, skipRestOf.eq_def]
    exact gives_ok.mpr ⟨rfl, rfl⟩
  | @plain enclosures input mid last hplain _ ih =>
    obtain ⟨le', hnext⟩ := skipValueIn_of_plain enclosures le hplain
    rw [skip, hnext]
    exact ih le'
  | @list enclosures input tail last hfront _ ih =>
    obtain ⟨le', hnext⟩ := skipValueIn_of_list enclosures le hfront
    rw [skip, hnext]
    exact ih le'
  | @object enclosures input tail last hfront _ ih =>
    obtain ⟨le', hnext⟩ := skipValueIn_of_object enclosures le hfront
    rw [skip, hnext]
    exact ih le'
  | @empty enclosure enclosures input tail last hfront _ ih =>
    obtain ⟨le', hnext⟩ := skipPartsOf_close enclosures le hfront
    rw [skip, hnext]
    exact ih le'
  | @part enclosure enclosures b input tail mid last hfront hb hlabel _ ih =>
    obtain ⟨le', hnext⟩ := skipPartsOf_part enclosures le hfront hb hlabel
    rw [skip, hnext]
    exact ih le'
  | @close enclosure enclosures input tail last hfront _ ih =>
    obtain ⟨le', hnext⟩ := skipRestOf_close enclosures le hfront
    rw [skip, hnext]
    exact ih le'
  | @comma enclosure enclosures input tail mid last hfront hlabel _ ih =>
    obtain ⟨le', hnext⟩ := skipRestOf_comma enclosures le hfront hlabel
    rw [skip, hnext]
    exact ih le'

/-- The first part of an enclosure is come to before any byte of it is passed over. -/
def weight : Stage → Nat
  | .value _ | .rest _ => 0
  | .parts _ _ => 1

theorem leaves_of_gives (stage : Stage) (input : List UInt8) (le : input.length ≤ origin.length)
    (h : Gives (stage.skip input le) () last) : stage.Leaves input last := by
  -- Along the recursion of the three functions, one step of theirs for each constructor.
  match stage with
  | .value enclosures =>
    rw [skip, skipValueIn.eq_def] at h
    split at h
    · exact absurd h not_gives_error
    rename_i b tail hfront
    have lt := length_of_dropWhile_eq_cons hfront
    split at h
    · rename_i hb
      subst hb
      exact .list hfront (leaves_of_gives (.parts .list enclosures) tail _ h)
    rename_i hlist
    split at h
    · rename_i hb
      subst hb
      exact .object hfront (leaves_of_gives (.parts .object enclosures) tail _ h)
    rename_i hobject
    split at h
    · rename_i hopens
      split at h
      · exact absurd h not_gives_error
      · rename_i taken htaken
        have le' := taken.length_le
        exact .plain ⟨b, tail, hfront, hlist, hobject, hopens, takes_of_eq htaken⟩
          (leaves_of_gives (.rest enclosures) taken.rest _ h)
    · exact absurd h not_gives_error
  | .parts enclosure enclosures =>
    rw [skip, skipPartsOf.eq_def] at h
    split at h
    · exact absurd h not_gives_error
    rename_i b tail hfront
    have lt := length_of_dropWhile_eq_cons hfront
    split at h
    · rename_i hb
      subst hb
      exact .empty hfront (leaves_of_gives (.rest enclosures) tail _ h)
    rename_i hb
    split at h
    · exact absurd h not_gives_error
    · rename_i taken htaken
      have le' := taken.length_le
      exact .part hfront hb (takes_of_eq htaken) (leaves_of_gives (.value (enclosure :: enclosures)) taken.rest _ h)
  | .rest [] =>
    rw [skip, skipRestOf.eq_def] at h
    obtain ⟨-, rfl⟩ := gives_ok.mp h
    exact .done
  | .rest (enclosure :: enclosures) =>
    rw [skip, skipRestOf.eq_def] at h
    dsimp only at h
    split at h
    · exact absurd h not_gives_error
    rename_i b tail hfront
    have lt := length_of_dropWhile_eq_cons hfront
    split at h
    · rename_i hb
      subst hb
      exact .close hfront (leaves_of_gives (.rest enclosures) tail _ h)
    split at h
    · rename_i hb
      subst hb
      split at h
      · exact absurd h not_gives_error
      · rename_i taken htaken
        have le' := taken.length_le
        exact .comma hfront (takes_of_eq htaken) (leaves_of_gives (.value (enclosure :: enclosures)) taken.rest _ h)
    · exact absurd h not_gives_error
termination_by 2 * input.length + stage.weight
decreasing_by
  all_goals simp only [weight]; omega

theorem Leaves.length_le (h : stage.Leaves input last) : last.length ≤ input.length :=
  (gives_of_leaves h (Nat.le_refl _)).1

theorem Leaves.append (h : stage.Leaves input last) (hne : last ≠ []) (more : List UInt8) :
    stage.Leaves (input ++ more) (last ++ more) := by
  induction h with
  | done => exact .done
  | plain hplain h ih =>
    have hmid := List.ne_nil_of_length_pos (Nat.lt_of_lt_of_le (List.length_pos_iff.mpr hne) h.length_le)
    exact .plain (hplain.append hmid more) (ih hne)
  | list hfront _ ih => exact .list (dropWhile_append hfront more) (ih hne)
  | object hfront _ ih => exact .object (dropWhile_append hfront more) (ih hne)
  | empty hfront _ ih => exact .empty (dropWhile_append hfront more) (ih hne)
  | part hfront hb hlabel _ ih =>
    exact .part (dropWhile_append hfront more) hb (firm_skipLabel _ _ _ _ hlabel more) (ih hne)
  | close hfront _ ih => exact .close (dropWhile_append hfront more) (ih hne)
  | comma hfront hlabel _ ih =>
    exact .comma (dropWhile_append hfront more) (firm_skipLabel _ _ _ _ hlabel more) (ih hne)

end Stage

theorem Reader.steady_skipValue : skipValue.Steady := by
  intro input _ rest h hne more
  have hleaves := Stage.leaves_of_gives (.value []) input (Nat.le_refl _) h
  exact Stage.gives_of_leaves (hleaves.append hne more) (Nat.le_refl _)

end SchemaSdl.Json
