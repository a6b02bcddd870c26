import SchemaSdl.Proofs.Json.Steady

/-! What comes after a value of an expected kind. Texts, lists and objects begin and end with bytes of their own, and
records are lists or objects, so that no reader of them looks any further. -/

namespace SchemaSdl.Json

namespace Reader
variable {α β σ : Type} {input rest more : List UInt8} {reader : Reader α}

/-! ### Texts and null -/

/-- The reader takes nothing from an empty input, and what comes after its input does not matter. -/
structure Solid (reader : Reader α) : Prop where
  firm : reader.Firm
  refuses : reader.Refuses

theorem solid_peekToken_bind {k : Option UInt8 → Reader α} (hnone : (k none).Refuses)
    (hsome : ∀ b tail, (k (some b)).Settled (b :: tail)) : (peekToken >>= k).Solid :=
  ⟨firm_peekToken_bind hnone hsome, refuses_peekToken_bind hnone⟩

theorem Solid.map (h : reader.Solid) (f : α → β) : (do return f (← reader)).Solid := ⟨h.firm.map f, h.refuses.bind⟩

theorem fails_wrongKind (expected : String) : (wrongKind expected : Reader α).Fails := by
  refine fails_bind fun ahead => ?_
  split
  · exact fails_failAtNext _
  · exact fails_bind fun _ => fails_bind fun _ => fails_fail _
  · exact fails_bind fun _ => fails_bind fun _ => fails_fail _
  · exact fails_bind fun _ => fails_bind fun _ => fails_fail _
  · exact fails_bind fun _ => fails_bind fun _ => fails_fail _
  · exact fails_bind fun _ => fails_bind fun _ => fails_fail _
  · exact fails_fail _
  · exact fails_fail _
  · split
    · exact fails_bind fun _ => fails_fail _
    · exact fails_failAtNext _

theorem solid_text : text.Solid := by
  refine solid_peekToken_bind (fails_wrongKind _).refuses fun b tail => ?_
  split
  · rename_i heq
    cases heq
    exact settled_skipByte_bind (firm_literal tail)
  · exact (fails_wrongKind _).firm _

theorem Solid.optional (h : reader.Solid) : (optional reader).Solid := by
  refine solid_peekToken_bind (h.map some).refuses fun b tail => ?_
  split
  · rename_i heq
    cases heq
    exact settled_skipByte_bind (((firm_wordRest _).bind fun _ => firm_pure none) tail)
  · exact (h.map some).firm _

/-! ### Lists -/

section Onward
variable {part : Type} {next : Option part} {tail : List UInt8}

/-- A list or an object goes on at this part, or it has ended, and this is left. -/
def Leads (outcome : Except Failure (Onward input part)) (next : Option part) (rest : List UInt8) : Prop :=
  match next with
  | none => ∃ le, outcome = .ok (.finished rest le)
  | some a => ∃ lt, outcome = .ok (.more a rest lt)

theorem not_leads_error {failure : Failure} :
    ¬ Leads (.error failure : Except Failure (Onward input part)) next rest := by
  cases next with
  | none => rintro ⟨_, ⟨⟩⟩
  | some a => rintro ⟨_, ⟨⟩⟩

theorem leads_finished {le : tail.length ≤ input.length} :
    Leads (.ok (.finished tail le) : Except Failure (Onward input part)) next rest ↔ next = none ∧ tail = rest := by
  constructor
  · cases next with
    | none =>
      rintro ⟨_, ⟨⟩⟩
      exact ⟨rfl, rfl⟩
    | some a => rintro ⟨_, ⟨⟩⟩
  · rintro ⟨rfl, rfl⟩
    exact ⟨le, rfl⟩

theorem leads_more {a : part} {lt : tail.length < input.length} :
    Leads (.ok (.more a tail lt) : Except Failure (Onward input part)) next rest ↔ next = some a ∧ tail = rest := by
  constructor
  · cases next with
    | none => rintro ⟨_, ⟨⟩⟩
    | some b =>
      rintro ⟨_, ⟨⟩⟩
      exact ⟨rfl, rfl⟩
  · rintro ⟨rfl, rfl⟩
    exact ⟨lt, rfl⟩

end Onward

theorem nextItem_append {next : Option Unit} (h : Leads (nextItem input) next rest) (more : List UInt8) :
    Leads (nextItem (input ++ more)) next (rest ++ more) := by
  rw [nextItem.eq_def] at h
  split at h
  · exact absurd h not_leads_error
  rename_i b tail hfront
  have hfront' := dropWhile_append hfront more
  split at h
  · rename_i hb
    subst hb
    obtain ⟨rfl, rfl⟩ := leads_finished.mp h
    refine ⟨Nat.le_of_lt (length_of_dropWhile_eq_cons hfront'), ?_⟩
    rw [nextItem]
    refine (match_front hfront' _ _).trans ?_
    rw [if_pos rfl]
  split at h
  · rename_i hclose hcomma
    split at h
    · exact absurd h not_leads_error
    rename_i c after hafter
    split at h
    · exact absurd h not_leads_error
    · rename_i hc
      obtain ⟨rfl, rfl⟩ := leads_more.mp h
      refine ⟨length_of_dropWhile_eq_cons hfront', ?_⟩
      rw [nextItem]
      refine (match_front hfront' _ _).trans ?_
      rw [if_neg hclose, if_pos hcomma, dropWhile_append hafter more]
      dsimp only
      rw [if_neg hc]
  · exact absurd h not_leads_error

theorem firm_firstItem : firstItem.Firm := by
  refine firm_peekToken_bind (fails_failAtNext _).refuses fun b tail => ?_
  split
  · rename_i heq
    cases heq
    exact settled_skipByte_bind (firm_pure false tail)
  · exact firm_pure true _
  · exact (fails_failAtNext _).firm _

section From
variable {origin origin' : List UInt8}

theorem itemsFrom_append {item : Reader α} (hitem : item.Firm) {items all : List α} {le : input.length ≤ origin.length}
    {le' : (input ++ more).length ≤ origin'.length} (h : Gives (itemsFrom item items input le) all rest) :
    Gives (itemsFrom item items (input ++ more) le') all (rest ++ more) := by
  fun_induction itemsFrom item items input le with
  | case1 => exact absurd h not_gives_error
  | case2 items input le tail le'' hnext =>
    obtain ⟨rfl, rfl⟩ := gives_ok.mp h
    have hleads : Leads (nextItem input) none tail := ⟨le'', hnext⟩
    obtain ⟨_, hnext⟩ := nextItem_append hleads more
    rw [itemsFrom, hnext]
    exact gives_ok.mpr ⟨rfl, rfl⟩
  | case3 => exact absurd h not_gives_error
  | case4 items input le tail lt hnext taken htaken ih =>
    have hleads : Leads (nextItem input) (some ()) tail := ⟨lt, hnext⟩
    obtain ⟨_, hnext⟩ := nextItem_append hleads more
    obtain ⟨_, htakes⟩ := hitem.within _ _ _ _ (takes_of_eq htaken) more
    rw [itemsFrom, hnext]
    simp only [htakes]
    exact ih h

end From

theorem Solid.listOf {item : Option (Reader α)} (hitem : ∀ reader ∈ item, reader.Solid) : (listOf item).Solid := by
  refine solid_peekToken_bind (fails_wrongKind _).refuses fun b tail => ?_
  split
  · rename_i heq
    cases heq
    cases item with
    | none => exact (fails_failAtNext _).firm _
    | some item =>
      have hfirm := (hitem item rfl).firm
      refine settled_skipByte_bind ((firm_firstItem.bind fun present => ?_) tail)
      split
      · refine (hfirm.within _).bind fun first => ?_
        exact fun _ _ _ h _ => itemsFrom_append hfirm h
      · exact firm_pure []
  · exact (fails_wrongKind _).firm _

/-! ### Objects -/

theorem memberName_append {next : Option String} (h : Leads (memberName input) next rest) (more : List UInt8) :
    Leads (memberName (input ++ more)) next (rest ++ more) := by
  rw [memberName.eq_def] at h
  split at h
  · exact absurd h not_leads_error
  rename_i b tail hfront
  have hfront' := dropWhile_append hfront more
  split at h
  · rename_i hb
    split at h
    · exact absurd h not_leads_error
    · rename_i taken htaken
      obtain ⟨rfl, rfl⟩ := leads_more.mp h
      obtain ⟨le, htakes⟩ := firm_literal.within _ _ _ _ (takes_of_eq htaken) more
      refine ⟨Nat.lt_of_le_of_lt le (length_of_dropWhile_eq_cons hfront'), ?_⟩
      rw [memberName]
      refine (match_front hfront' _ _).trans ?_
      rw [if_pos hb]
      simp only [htakes]
  split at h
  · exact absurd h not_leads_error
  · exact absurd h not_leads_error

theorem nextMember_append {first : Bool} {next : Option String} (h : Leads (nextMember first input) next rest)
    (more : List UInt8) : Leads (nextMember first (input ++ more)) next (rest ++ more) := by
  rw [nextMember.eq_def] at h
  split at h
  · exact absurd h not_leads_error
  rename_i b tail hfront
  have hfront' := dropWhile_append hfront more
  split at h
  · rename_i hb
    obtain ⟨rfl, rfl⟩ := leads_finished.mp h
    refine ⟨Nat.le_of_lt (length_of_dropWhile_eq_cons hfront'), ?_⟩
    rw [nextMember]
    refine (match_front hfront' _ _).trans ?_
    rw [if_pos hb]
  rename_i hclose
  split at h
  · rename_i hfirst
    split at h
    · rename_i hb
      have hsame : nextMember first (input ++ more) = memberName (input ++ more) := by
        rw [nextMember]
        refine (match_front hfront' _ _).trans ?_
        rw [if_neg hclose, if_pos hfirst, if_pos hb]
      rw [hsame]
      exact memberName_append h more
    · exact absurd h not_leads_error
  rename_i hfirst
  split at h
  · rename_i hcomma
    split at h
    · exact absurd h not_leads_error
    · rename_i after le hname
      obtain ⟨rfl, rfl⟩ := leads_finished.mp h
      have hleads : Leads (memberName tail) none after := ⟨le, hname⟩
      obtain ⟨le', hname⟩ := memberName_append hleads more
      refine ⟨Nat.le_trans le' (Nat.le_of_lt (length_of_dropWhile_eq_cons hfront')), ?_⟩
      rw [nextMember]
      refine (match_front hfront' _ _).trans ?_
      rw [if_neg hclose, if_neg hfirst, if_pos hcomma, hname]
    · rename_i name after lt hname
      obtain ⟨rfl, rfl⟩ := leads_more.mp h
      have hleads : Leads (memberName tail) (some name) after := ⟨lt, hname⟩
      obtain ⟨lt', hname⟩ := memberName_append hleads more
      refine ⟨Nat.lt_trans lt' (length_of_dropWhile_eq_cons hfront'), ?_⟩
      rw [nextMember]
      refine (match_front hfront' _ _).trans ?_
      rw [if_neg hclose, if_neg hfirst, if_pos hcomma, hname]
  · exact absurd h not_leads_error

theorem firm_colon : colon.Firm := by
  refine firm_peekToken_bind (fails_failAtNext _).refuses fun b tail => ?_
  split
  · exact settled_skipByte
  · exact (fails_failAtNext _).firm _
  · exact (fails_failAtNext _).firm _

section From
variable {origin origin' : List UInt8} {member : σ → String → Except Cause (Reader σ)} {state last : σ} {first : Bool}

theorem ne_nil_of_membersFrom {le : input.length ≤ origin.length}
    (h : Gives (membersFrom member state first input le) last rest) : input ≠ [] := by
  rintro rfl
  rw [membersFrom, nextMember] at h
  exact not_gives_error h

theorem membersFrom_append (hmember : ∀ state name reader, member state name = .ok reader → reader.Steady)
    {le : input.length ≤ origin.length} {le' : (input ++ more).length ≤ origin'.length}
    (h : Gives (membersFrom member state first input le) last rest) :
    Gives (membersFrom member state first (input ++ more) le') last (rest ++ more) := by
  fun_induction membersFrom member state first input le with
  | case1 => exact absurd h not_gives_error
  | case2 state first input le tail le'' hnext =>
    obtain ⟨rfl, rfl⟩ := gives_ok.mp h
    have hleads : Leads (nextMember first input) none tail := ⟨le'', hnext⟩
    obtain ⟨_, hnext⟩ := nextMember_append hleads more
    rw [membersFrom, hnext]
    exact gives_ok.mpr ⟨rfl, rfl⟩
  | case3 => exact absurd h not_gives_error
  | case4 => exact absurd h not_gives_error
  | case5 state first input le name tail lt hnext value hvalue taken htaken ih =>
    have hleads : Leads (nextMember first input) (some name) tail := ⟨lt, hnext⟩
    obtain ⟨_, hnext⟩ := nextMember_append hleads more
    -- The value may be a number that is passed over. Behind it there is at least the end of the object.
    have hsteady : (andThen colon fun _ => within (.key name) value).Steady :=
      firm_colon.steady.bind fun _ => (hmember _ _ _ hvalue).within _
    obtain ⟨_, htakes⟩ := hsteady _ _ _ (takes_of_eq htaken) (ne_nil_of_membersFrom h) more
    rw [membersFrom, hnext]
    simp only [hvalue, htakes]
    exact ih h

end From

theorem Solid.object {member : Option (σ → String → Reader σ)} {state : σ}
    (hmember : ∀ read ∈ member, ∀ state name, (read state name).Solid) : (object member state).Solid := by
  refine solid_peekToken_bind (fails_wrongKind _).refuses fun b tail => ?_
  split
  · rename_i heq
    cases heq
    cases member with
    | none => exact (fails_failAtNext _).firm _
    | some read =>
      refine settled_skipByte_bind ?_
      refine fun _ _ h _ => membersFrom_append ?_ h
      rintro state name reader ⟨⟩
      exact (hmember read rfl state name).firm.steady
  · exact (fails_wrongKind _).firm _

/-! ### Records -/

section Records
variable {slots : List (Slot σ)}

theorem steady_member (hslots : ∀ slot ∈ slots, slot.value.Solid) (draft : Draft σ) (name : String)
    (reader : Reader (Draft σ)) (h : Draft.member slots draft name = .ok reader) : reader.Steady := by
  rw [Draft.member] at h
  split at h
  · cases h
    exact steady_skipValue.bind fun _ => (firm_pure draft).steady
  · rename_i slot hslot
    split at h
    · cases h
    · cases h
      have hsolid := hslots slot (List.mem_of_find?_eq_some hslot)
      exact (hsolid.firm.bind fun change => firm_pure _).steady

theorem firm_recordMembers (hslots : ∀ slot ∈ slots, slot.value.Solid) (empty : σ) :
    (recordMembers slots empty).Firm := by
  refine Firm.bind (fun _ _ _ h _ => membersFrom_append (steady_member hslots) h) fun draft => ?_
  split
  · exact (fails_fail _).firm
  · exact firm_pure _

theorem firm_reachItem (n : Nat) : (recordItems.reachItem n).Firm := by
  refine firm_peekToken_bind (fails_failAtNext _).refuses fun b tail => ?_
  split
  · exact firm_pure false _
  · rename_i heq
    cases heq
    split
    · exact firm_pure true _
    · refine settled_skipByte_bind (firm_peekToken_bind (fails_failAtNext _).refuses (fun b' tail' => ?_) tail)
      split
      · exact (fails_failAtNext _).firm _
      · exact firm_pure true _
      · exact (fails_failAtNext _).firm _
  · split
    · exact firm_pure true _
    · exact (fails_failAtNext _).firm _
  · exact (fails_failAtNext _).firm _

theorem firm_recordItems (expected : String) (record : σ) (n : Nat) (hslots : ∀ slot ∈ slots, slot.value.Solid) :
    (recordItems expected record n slots).Firm := by
  induction slots generalizing record n with
  | nil =>
    refine firm_peekToken_bind (fails_failAtNext _).refuses fun b tail => ?_
    split
    · exact settled_skipByte_bind (firm_pure record tail)
    · refine (Fails.firm (fails_bind fun _ => fails_bind fun ahead => ?_)) _
      split
      · exact fails_failAtNext _
      · exact fails_failAtNext _
    · exact (fails_failAtNext _).firm _
    · exact (fails_failAtNext _).firm _
  | cons slot slots ih =>
    obtain ⟨hslot, hslots⟩ := List.forall_mem_cons.mp hslots
    refine (firm_reachItem n).bind fun reached => ?_
    split
    · exact (hslot.firm.within _).bind fun change => ih _ _ hslots
    split
    · exact (fails_bind fun _ => fails_fail _).firm
    · exact ih _ _ hslots

theorem Solid.record (name : String) {slots : Option (List (Slot σ))} (empty : σ)
    (hslots : ∀ known ∈ slots, ∀ slot ∈ known, slot.value.Solid) : (record name slots empty).Solid := by
  refine solid_peekToken_bind (fails_wrongKind _).refuses fun b tail => ?_
  split
  · rename_i heq
    cases heq
    cases slots with
    | none => exact (fails_failAtNext _).firm _
    | some slots => exact settled_skipByte_bind (firm_recordMembers (hslots slots rfl) empty tail)
  · rename_i heq
    cases heq
    cases slots with
    | none => exact (fails_failAtNext _).firm _
    | some slots => exact settled_skipByte_bind (firm_recordItems _ _ _ (hslots slots rfl) tail)
  · exact (fails_wrongKind _).firm _

end Records
end Reader
end SchemaSdl.Json
