import SchemaSdl.Proofs.Json.Skipping

/-! Readers read what the text of a value writes, wherever that text stands. -/

namespace SchemaSdl.Json

namespace Reader
variable {α β σ : Type} {reader : Reader α} {value : Value} {a : α} {input mid rest : List UInt8}

/-- A reader reads this from every text that writes the value, up to the end of that text. -/
def Reads (reader : Reader α) (value : Value) (a : α) : Prop :=
  ∀ ⦃input rest : List UInt8⦄, Laid value.tokens input rest → Stops rest → reader.Takes input a rest

theorem Reads.map (h : reader.Reads value a) (f : α → β) : (do return f (← reader)).Reads value (f a) :=
  fun _ _ hlaid hrest => (h hlaid hrest).bind (takes_pure (f a))

theorem reads_text (s : String) : text.Reads (.text s) s := by
  intro input rest hlaid hrest
  obtain ⟨pieces, mid, hpieces, hinput, hmid⟩ := hlaid.text
  obtain rfl := hmid.eq_of_nil
  exact (takes_peekToken hinput).bind (takes_skipByte.bind (takes_literal hpieces))

/-! ### Null -/

theorem reads_null (reader : Reader α) : (optional reader).Reads .null none := by
  intro input rest hlaid hrest
  obtain ⟨mid, hinput, hmid⟩ := hlaid.word rfl rfl
  obtain rfl := hmid.eq_of_nil
  refine (takes_peekToken hinput).bind (takes_skipByte.bind ?_)
  exact (takes_wordRest [0x75, 0x6C, 0x6C]).bind (takes_pure none)

theorem Reads.optional (h : reader.Reads value a) (hne : value ≠ .null) :
    (optional reader).Reads value (some a) := by
  intro input rest hlaid hrest
  obtain ⟨b, tail, hopens, hinput, htail⟩ := value.front hlaid
  refine (takes_peekToken hinput).bind ?_
  split
  · rename_i heq
    exact absurd (Option.some.inj heq) (hopens.ne_null hne)
  · exact (h htail hrest).bind (takes_pure (some a))

/-! ### Lists -/

theorem takes_firstItem (h : Laid value.tokens input rest) :
    ∃ b tail, firstItem.Takes input true (b :: tail) ∧ Laid value.tokens (b :: tail) rest := by
  obtain ⟨b, tail, hopens, hinput, htail⟩ := value.front h
  refine ⟨b, tail, (takes_peekToken hinput).bind ?_, htail⟩
  split
  · rename_i heq
    exact absurd (Option.some.inj heq) hopens.ne_close
  · exact takes_pure true
  · rename_i heq
    cases heq

theorem nextItem_close (h : Laid [.mark ']'] input rest) : ∃ le, nextItem input = .ok (.finished rest le) := by
  obtain ⟨mid, hinput, hmid⟩ := h.mark 0x5D rfl rfl
  obtain rfl := hmid.eq_of_nil
  refine ⟨Nat.le_of_lt (length_of_dropWhile_eq_cons hinput), ?_⟩
  rw [nextItem]
  refine (match_front hinput _ _).trans ?_
  rw [if_pos rfl]

theorem nextItem_comma {tokens : List Token} (h : Laid (.mark ',' :: (value.tokens ++ tokens)) input rest) :
    ∃ tail lt, nextItem input = .ok (.more () tail lt) ∧ Laid (value.tokens ++ tokens) tail rest := by
  obtain ⟨tail, hinput, htail⟩ := h.mark 0x2C rfl rfl
  obtain ⟨mid, hvalue, -⟩ := htail.exists_of_append
  obtain ⟨b, after, hopens, hnext, -⟩ := value.front hvalue
  refine ⟨tail, length_of_dropWhile_eq_cons hinput, ?_, htail⟩
  rw [nextItem]
  refine (match_front hinput _ _).trans ?_
  rw [if_neg (by decide), if_pos rfl]
  simp only [hnext, if_neg hopens.ne_close]

theorem stops_of_items {values : List Value}
    (h : Laid (values.flatMap (.mark ',' :: Value.tokens ·) ++ [.mark ']']) input rest) : Stops input := by
  cases values with
  | nil => exact h.stops (by simp)
  | cons => exact h.stops (by simp)

/-- After a value come the values that are left, each behind a comma, and the end of the list. -/
theorem itemsFrom_laid {origin : List UInt8} {values : List Value} {as : List α} (done : List α)
    (h : List.Forall₂ reader.Reads values as) (le : input.length ≤ origin.length)
    (hlaid : Laid (values.flatMap (.mark ',' :: Value.tokens ·) ++ [.mark ']']) input rest) :
    Gives (itemsFrom reader done input le) (done.reverse ++ as) rest := by
  induction h generalizing input done with
  | nil =>
    obtain ⟨le', hnext⟩ := nextItem_close hlaid
    refine ⟨Nat.le_trans le' le, ?_⟩
    rw [itemsFrom, hnext, List.append_nil]
  | @cons value a values as hread _ ih =>
    rw [List.flatMap_cons, List.append_assoc, List.cons_append] at hlaid
    obtain ⟨tail, lt, hnext, htail⟩ := nextItem_comma hlaid
    obtain ⟨mid, hvalue, hmid⟩ := htail.exists_of_append
    obtain ⟨le', htakes⟩ := (hread hvalue (stops_of_items hmid)).within (.index done.length)
    have hrest := ih (a :: done) (Nat.le_trans le' (Nat.le_trans (Nat.le_of_lt lt) le)) hmid
    rw [List.reverse_cons, List.append_assoc, List.singleton_append] at hrest
    rw [itemsFrom, hnext]
    simp only [htakes]
    exact hrest

theorem reads_list {values : List Value} {as : List α} (h : List.Forall₂ reader.Reads values as) :
    (listOf (some reader)).Reads (.list values) as := by
  intro input rest hlaid hrest
  rw [Value.tokens, Value.itemTokens_eq] at hlaid
  obtain ⟨tail, hinput, htail⟩ := Laid.mark hlaid 0x5B rfl rfl
  refine (takes_peekToken hinput).bind (takes_skipByte.bind ?_)
  cases h with
  | nil =>
    obtain ⟨mid, hclose, hmid⟩ := Laid.mark htail 0x5D rfl rfl
    obtain rfl := hmid.eq_of_nil
    have hfirst : firstItem.Takes tail false mid :=
      (takes_peekToken hclose).bind (takes_skipByte.bind (takes_pure false))
    exact hfirst.bind (takes_pure [])
  | @cons value a values as hread hreads =>
    change Laid (separated (value.tokens :: values.map Value.tokens) ++ [.mark ']']) tail rest at htail
    rw [separated, List.flatMap_map, List.append_assoc] at htail
    obtain ⟨mid, hvalue, hmid⟩ := htail.exists_of_append
    obtain ⟨b, next, hfirst, hvalue⟩ := takes_firstItem hvalue
    have hitems := itemsFrom_laid [a] hreads (Nat.le_refl mid.length) hmid
    exact hfirst.bind (((hread hvalue (stops_of_items hmid)).within (.index 0)).bind hitems)

/-! ### Objects -/

/-- The tokens of a member. -/
def memberTokens (member : String × Value) : List Token := .text member.1 :: .mark ':' :: member.2.tokens

theorem memberName_laid {name : String} {tokens : List Token} (h : Laid (.text name :: tokens) input rest) :
    ∃ tail lt, memberName input = .ok (.more name tail lt) ∧ Laid tokens tail rest := by
  obtain ⟨pieces, mid, hpieces, hinput, hmid⟩ := h.text
  have hliteral : literal.Takes (bytes pieces.flatten ++ 0x22 :: mid) name mid := takes_literal hpieces
  obtain ⟨le, htakes⟩ := hliteral.within .unknown
  refine ⟨mid, Nat.lt_of_le_of_lt le (length_of_dropWhile_eq_cons hinput), ?_, hmid⟩
  rw [memberName]
  refine (match_front hinput _ _).trans ?_
  rw [if_pos rfl]
  simp only [htakes]

theorem nextMember_close (first : Bool) (h : Laid [.mark '\x7d'] input rest) :
    ∃ le, nextMember first input = .ok (.finished rest le) := by
  obtain ⟨mid, hinput, hmid⟩ := h.mark 0x7D rfl rfl
  obtain rfl := hmid.eq_of_nil
  refine ⟨Nat.le_of_lt (length_of_dropWhile_eq_cons hinput), ?_⟩
  rw [nextMember]
  refine (match_front hinput _ _).trans ?_
  rw [if_pos rfl]

theorem nextMember_first {name : String} {tokens : List Token} (h : Laid (.text name :: tokens) input rest) :
    ∃ tail lt, nextMember true input = .ok (.more name tail lt) ∧ Laid tokens tail rest := by
  obtain ⟨tail, lt, hname, htail⟩ := memberName_laid h
  obtain ⟨pieces, mid, -, hinput, -⟩ := h.text
  refine ⟨tail, lt, ?_, htail⟩
  rw [nextMember]
  refine (match_front hinput _ _).trans ?_
  rw [if_neg (by decide), if_pos rfl, if_pos rfl, hname]

theorem nextMember_comma {name : String} {tokens : List Token}
    (h : Laid (.mark ',' :: .text name :: tokens) input rest) :
    ∃ tail lt, nextMember false input = .ok (.more name tail lt) ∧ Laid tokens tail rest := by
  obtain ⟨mid, hinput, hmid⟩ := h.mark 0x2C rfl rfl
  obtain ⟨tail, lt, hname, htail⟩ := memberName_laid hmid
  refine ⟨tail, Nat.lt_trans lt (length_of_dropWhile_eq_cons hinput), ?_, htail⟩
  rw [nextMember]
  refine (match_front hinput _ _).trans ?_
  rw [if_neg (by decide), if_neg (by decide), if_pos rfl, hname]

theorem takes_colon {tokens : List Token} (h : Laid (.mark ':' :: tokens) input rest) :
    ∃ tail, colon.Takes input () tail ∧ Laid tokens tail rest := by
  obtain ⟨tail, hinput, htail⟩ := h.mark 0x3A rfl rfl
  exact ⟨tail, (takes_peekToken hinput).bind takes_skipByte, htail⟩

/-- Members taken up one after another: what each one is read by, and what has been read after it. -/
inductive Steps (member : σ → String → Except Cause (Reader σ)) : σ → List (String × Value) → σ → Prop
  | nil (state : σ) : Steps member state [] state
  | cons {state next last : σ} {name : String} {value : Value} {members : List (String × Value)} {reader : Reader σ}
      (hmember : member state name = .ok reader) (hreads : reader.Reads value next)
      (hrest : Steps member next members last) : Steps member state ((name, value) :: members) last

section Members
variable {origin : List UInt8} {member : σ → String → Except Cause (Reader σ)} {state last : σ}
  {members : List (String × Value)}

theorem stops_of_members
    (h : Laid (members.flatMap (.mark ',' :: memberTokens ·) ++ [.mark '\x7d']) input rest) : Stops input := by
  cases members with
  | nil => exact h.stops (by simp)
  | cons => exact h.stops (by simp)

/-- One member is taken up, and reading goes on behind its value. -/
theorem membersFrom_more {reader : Reader σ} {next : σ} {first : Bool} {name : String} {tail : List UInt8}
    {lt : tail.length < input.length} (le : input.length ≤ origin.length)
    (hnext : nextMember first input = .ok (.more name tail lt))
    (hmember : member state name = .ok reader) (hreads : reader.Reads value next)
    (hlaid : Laid (.mark ':' :: (value.tokens ++ (members.flatMap (.mark ',' :: memberTokens ·) ++ [.mark '\x7d'])))
      tail rest) :
    ∃ mid le', membersFrom member state first input le = membersFrom member next false mid le' ∧
      Laid (members.flatMap (.mark ',' :: memberTokens ·) ++ [.mark '\x7d']) mid rest := by
  obtain ⟨behind, hcolon, hbehind⟩ := takes_colon hlaid
  obtain ⟨mid, hvalue, hmid⟩ := hbehind.exists_of_append
  have htakes : (andThen colon fun _ => within (.key name) reader).Takes tail next mid :=
    hcolon.bind ((hreads hvalue (stops_of_members hmid)).within (.key name))
  obtain ⟨le', htakes⟩ := htakes
  refine ⟨mid, Nat.le_trans le' (Nat.le_trans (Nat.le_of_lt lt) le), ?_, hmid⟩
  rw [membersFrom, hnext]
  simp only [hmember, htakes]

/-- After a member come those that are left, each behind a comma, and the end of the object. -/
theorem membersFrom_rest (h : Steps member state members last) (le : input.length ≤ origin.length)
    (hlaid : Laid (members.flatMap (.mark ',' :: memberTokens ·) ++ [.mark '\x7d']) input rest) :
    Gives (membersFrom member state false input le) last rest := by
  induction h generalizing input with
  | nil state =>
    obtain ⟨le', hnext⟩ := nextMember_close false hlaid
    refine ⟨Nat.le_trans le' le, ?_⟩
    rw [membersFrom, hnext]
  | cons hmember hreads _ ih =>
    rw [List.flatMap_cons, List.append_assoc] at hlaid
    obtain ⟨tail, lt, hnext, htail⟩ := nextMember_comma hlaid
    obtain ⟨mid, le', hstep, hmid⟩ := membersFrom_more le hnext hmember hreads htail
    rw [hstep]
    exact ih le' hmid

theorem membersFrom_laid (h : Steps member state members last) (le : input.length ≤ origin.length)
    (hlaid : Laid (separated (members.map memberTokens) ++ [.mark '\x7d']) input rest) :
    Gives (membersFrom member state true input le) last rest := by
  cases h with
  | nil =>
    obtain ⟨le', hnext⟩ := nextMember_close true hlaid
    refine ⟨Nat.le_trans le' le, ?_⟩
    rw [membersFrom, hnext]
  | cons hmember hreads hrest =>
    rw [List.map_cons, separated, List.flatMap_map, List.append_assoc] at hlaid
    obtain ⟨tail, lt, hnext, htail⟩ := nextMember_first hlaid
    obtain ⟨mid, le', hstep, hmid⟩ := membersFrom_more le hnext hmember hreads htail
    rw [hstep]
    exact membersFrom_rest hrest le' hmid

/-- The opening brace of an object, and its members behind it. -/
theorem takes_members (hlaid : Laid (Value.object members).tokens input rest) (h : Steps member state members last) :
    ∃ tail, input.dropWhile isBlank = 0x7B :: tail ∧
      (afresh fun input => membersFrom member state true input).Takes tail last rest := by
  rw [Value.tokens, Value.memberTokens_eq] at hlaid
  obtain ⟨tail, hinput, htail⟩ := Laid.mark hlaid 0x7B rfl rfl
  exact ⟨tail, hinput, membersFrom_laid h (Nat.le_refl tail.length) htail⟩

end Members

theorem reads_object {member : σ → String → Reader σ} {state last : σ} {members : List (String × Value)}
    (h : Steps (fun state name => .ok (member state name)) state members last) :
    (object (some member) state).Reads (.object members) last := by
  intro input rest hlaid hrest
  obtain ⟨tail, hinput, hmembers⟩ := takes_members hlaid h
  exact (takes_peekToken hinput).bind (takes_skipByte.bind hmembers)

/-! ### Records -/

section Records
variable {slots : List (Slot σ)} {members : List (String × Value)} {empty : σ}

theorem reads_record (name : String) {draft : Draft σ} (h : Steps (Draft.member slots) ⟨empty, []⟩ members draft)
    (hneeded : ∀ slot ∈ slots, slot.needed = false) :
    (record name (some slots) empty).Reads (.object members) draft.record := by
  intro input rest hlaid hrest
  obtain ⟨tail, hinput, hmembers⟩ := takes_members hlaid h
  refine (takes_peekToken hinput).bind (takes_skipByte.bind (hmembers.bind ?_))
  have hnone : (slots.find? fun slot => slot.needed && !draft.seen.contains slot.name) = none := by
    rw [List.find?_eq_none]
    intro slot hslot
    simp [hneeded slot hslot]
  rw [hnone]
  exact takes_pure draft.record

theorem reads_unknown (draft : Draft σ) {name : String} (hother : ∀ slot ∈ slots, slot.name ≠ name) (value : Value) :
    ∃ reader, draft.member slots name = .ok reader ∧ reader.Reads value draft := by
  have hfind : slots.find? (·.name = name) = none := by simpa using hother
  refine ⟨_, by rw [Draft.member, hfind], fun _ _ hlaid hrest => ?_⟩
  exact (takes_skipValue hlaid hrest).bind (takes_pure draft)

theorem reads_known (draft : Draft σ) {slot : Slot σ} {change : σ → σ}
    (hslot : slots.find? (·.name = slot.name) = some slot) (hfresh : slot.name ∉ draft.seen)
    (hreads : slot.value.Reads value change) :
    ∃ reader, draft.member slots slot.name = .ok reader ∧
      reader.Reads value ⟨change draft.record, slot.name :: draft.seen⟩ := by
  have hread := hreads.map fun change => (⟨change draft.record, slot.name :: draft.seen⟩ : Draft σ)
  refine ⟨_, ?_, hread⟩
  rw [Draft.member, hslot]
  exact if_neg hfresh

/-- The members of a record in any order. A slot comes up at most once and changes the record by what its value says;
what has come up before tells what the record is. Other members change nothing. -/
theorem steps_of_slots {only : List String → σ} (seen : List String)
    (honce : ∀ slot ∈ slots, (seen ++ members.map Prod.fst).count slot.name ≤ 1)
    (hslots : ∀ member ∈ members, ∀ slot ∈ slots, slot.name = member.1 →
      ∃ change, slot.value.Reads member.2 change ∧ ∀ seen, change (only seen) = only (slot.name :: seen)) :
    ∃ seen', Steps (Draft.member slots) ⟨only seen, seen⟩ members ⟨only seen', seen'⟩ ∧
      ∀ slot ∈ slots, slot.name ∈ seen' ↔ slot.name ∈ seen ++ members.map Prod.fst := by
  -- What has come up moves from `members` to `seen`, so that a slot is counted over both together.
  induction members generalizing seen with
  | nil => exact ⟨seen, .nil _, by simp⟩
  | cons member members ih =>
    obtain ⟨name, value⟩ := member
    obtain ⟨hmember, hmembers⟩ := List.forall_mem_cons.mp hslots
    cases hfind : slots.find? (·.name = name) with
    | none =>
      have hother : ∀ slot ∈ slots, slot.name ≠ name := by simpa using hfind
      obtain ⟨reader, hreader, hreads⟩ := reads_unknown ⟨only seen, seen⟩ hother value
      have honce' : ∀ slot ∈ slots, (seen ++ members.map Prod.fst).count slot.name ≤ 1 := fun slot hslot =>
        Nat.le_trans (((List.sublist_cons_self name _).append_left seen).count_le slot.name) (honce slot hslot)
      obtain ⟨seen', hsteps, hseen'⟩ := ih seen honce' hmembers
      refine ⟨seen', .cons hreader hreads hsteps, fun slot hslot => ?_⟩
      rw [hseen' slot hslot]
      simp [hother slot hslot]
    | some slot =>
      have hslot : slot ∈ slots := List.mem_of_find?_eq_some hfind
      obtain rfl : slot.name = name := by simpa using List.find?_some hfind
      obtain ⟨change, hreads, hchange⟩ := hmember slot hslot rfl
      have hperm : (slot.name :: seen ++ members.map Prod.fst).Perm (seen ++ slot.name :: members.map Prod.fst) :=
        List.perm_middle.symm
      have hfresh : slot.name ∉ seen := by
        intro hmem
        have hcount := honce slot hslot
        rw [List.map_cons, ← hperm.count_eq, List.cons_append, List.count_cons_self, List.count_append] at hcount
        have hpos := List.count_pos_iff.mpr hmem
        omega
      obtain ⟨reader, hreader, hread⟩ := reads_known ⟨only seen, seen⟩ hfind hfresh hreads
      rw [hchange] at hread
      have honce' : ∀ slot' ∈ slots, (slot.name :: seen ++ members.map Prod.fst).count slot'.name ≤ 1 := by
        intro slot' hslot'
        rw [hperm.count_eq]
        exact honce slot' hslot'
      obtain ⟨seen', hsteps, hseen'⟩ := ih (slot.name :: seen) honce' hmembers
      refine ⟨seen', .cons hreader hread hsteps, fun slot' hslot' => ?_⟩
      rw [hseen' slot' hslot', hperm.mem_iff, List.map_cons]

/-- A record is read from its members in any order: once all of them have come up it is this one. -/
theorem reads_record_of_slots (name : String) (only : List String → σ) (full : σ) (hempty : only [] = empty)
    (honce : ∀ slot ∈ slots, (members.map Prod.fst).count slot.name ≤ 1) (hneeded : ∀ slot ∈ slots, slot.needed = false)
    (hslots : ∀ member ∈ members, ∀ slot ∈ slots, slot.name = member.1 →
      ∃ change, slot.value.Reads member.2 change ∧ ∀ seen, change (only seen) = only (slot.name :: seen))
    (hfull : ∀ seen, (∀ slot ∈ slots, slot.name ∈ members.map Prod.fst → slot.name ∈ seen) → only seen = full) :
    (record name (some slots) empty).Reads (.object members) full := by
  subst hempty
  obtain ⟨seen, hsteps, hseen⟩ := steps_of_slots [] honce hslots
  have hread := reads_record name hsteps hneeded
  rwa [hfull seen fun slot hslot => (hseen slot hslot).mpr] at hread

end Records

end Reader
end SchemaSdl.Json
