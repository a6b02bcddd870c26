import SchemaSdl.Proofs.Chains
import SchemaSdl.Proofs.Inlining

/-! Cyclic references. A reference comes to its target, and from an alias that is a reference itself to what that one
refers to. It is reported as cyclic exactly if it comes to some name again, and the report is the names up to there.
Going through one alias many times, for one property after another, is no cycle. -/

namespace SchemaSdl

/-! ### Where a reference comes to -/

namespace Document
variable {document : Document} {name next target field : String} {chain passed : List String} {required list : Bool}
  {description : Option String} {definition : Node} {i j n : Nat}

/-- What an alias refers to, if it is a reference. -/
def next? (document : Document) (name : String) : Option String :=
  (document.get? name).bind fun definition =>
    match definition.isAlias, definition.shape with
    | true, .reference next _ => some next
    | _, _ => none

/-- The name that a reference with this target comes to in so many steps, if it goes on so far. -/
def along (document : Document) (target : String) : Nat → Option String
  | 0 => some target
  | i + 1 => (along document target i).bind document.next?

/-- A reference with this target comes to some name again. -/
def Repeats (document : Document) (target : String) : Prop :=
  ∃ i j name, i < j ∧ document.along target i = some name ∧ document.along target j = some name

/-- The names that a reference with this target comes to, up to the first one that it has come to before. -/
structure Cycle (document : Document) (target : String) (chain : List String) : Prop where
  along : ∀ i < chain.length, chain[i]? = document.along target i
  distinct : chain.dropLast.Nodup
  again : ∃ name ∈ chain.dropLast, chain.getLast? = some name

theorem next?_of_reference (hget : document.get? name = some definition) (halias : definition.isAlias = true)
    (hshape : definition.shape = .reference next list) : document.next? name = some next := by
  simp [next?, hget, halias, hshape]

theorem along_add (i k : Nat) :
    document.along target (i + k) = (document.along target i).bind fun name => document.along name k := by
  induction k with
  | zero => simp [along]
  | succ k ih => rw [← Nat.add_assoc, along, ih, Option.bind_assoc]; rfl

theorem along_succ (i : Nat) : document.along target (i + 1) =
    (document.next? target).bind fun next => document.along next i := by
  rw [Nat.add_comm, along_add]
  rfl

theorem along_one_eq_none (h : document.next? target = none) : document.along target 1 = none := h

/-- What comes to a name again goes on without end. -/
theorem Repeats.along_ne_none (h : document.Repeats target) (n : Nat) : document.along target n ≠ none := by
  obtain ⟨i, j, name, hij, hi, hj⟩ := h
  obtain ⟨p, rfl⟩ := Nat.exists_eq_add_of_lt hij
  have hperiod : document.along name (p + 1) = some name := by
    rw [Nat.add_assoc, along_add, hi] at hj
    exact hj
  have hperiods (q : Nat) : document.along name ((p + 1) * q) = some name := by
    induction q with
    | zero => rfl
    | succ q ih =>
      rw [Nat.mul_succ, along_add, ih]
      exact hperiod
  intro hnone
  -- The name is met after more than this many steps, but there is none to be met after the end.
  have hend : document.along target (n + (i + (p + 1) * n - n)) = none := by
    rw [along_add, hnone]
    rfl
  have hle : n ≤ i + (p + 1) * n := by
    have := Nat.mul_le_mul_right n (Nat.le_add_left 1 p)
    omega
  rw [Nat.add_sub_of_le hle, along_add, hi, Option.bind_some, hperiods n] at hend
  cases hend

theorem Cycle.repeats (h : document.Cycle target chain) : document.Repeats target := by
  obtain ⟨name, hmem, hlast⟩ := h.again
  obtain ⟨i, hi, hname⟩ := List.mem_iff_getElem.mp hmem
  rw [List.length_dropLast] at hi
  rw [List.getElem_dropLast] at hname
  refine ⟨i, chain.length - 1, name, hi, ?_, ?_⟩
  · rw [← h.along i (by omega), List.getElem?_eq_getElem (by omega), hname]
  · rw [← h.along (chain.length - 1) (by omega), ← List.getLast?_eq_getElem?, hlast]

/-! ### Following references -/

/-- A cycle is reported as the names passed and then those that the reference comes to. -/
theorem exists_of_settle_eq_cyclic
    (h : document.settle field required passed description target list = .error (.cyclicReference chain))
    (hpassed : passed.Nodup) :
    ∃ names, chain = passed ++ names ∧ (∀ i < names.length, names[i]? = document.along target i) ∧
      chain.dropLast.Nodup ∧ ∃ name ∈ chain.dropLast, chain.getLast? = some name := by
  fun_induction settle document field required passed description target list with
  | case1 | case3 | case5 | case6 => cases h
  | case2 passed description target list node hnode halias hmem =>
    cases h
    refine ⟨[target], rfl, fun i hi => ?_, ?_, target, ?_, ?_⟩
    · obtain rfl := Nat.lt_one_iff.mp hi
      rfl
    · rwa [List.dropLast_concat]
    · rwa [List.dropLast_concat]
    · exact List.getLast?_concat
  | case4 passed description target list node hnode halias hfree next list' hshape _ ih =>
    have hmore : (passed ++ [target]).Nodup :=
      hpassed.append (List.nodup_singleton target) (List.disjoint_singleton.mpr hfree)
    obtain ⟨names, hchain, halong, hdistinct, hagain⟩ := ih h hmore
    refine ⟨target :: names, by rw [hchain, List.append_assoc]; rfl, fun i hi => ?_, hdistinct, hagain⟩
    cases i with
    | zero => rfl
    | succ i =>
      rw [along_succ, next?_of_reference hnode halias hshape]
      exact halong i (Nat.lt_of_succ_lt_succ hi)

theorem cycle_of_settle
    (h : document.settle field required [] description target list = .error (.cyclicReference chain)) :
    document.Cycle target chain := by
  obtain ⟨names, rfl, halong, hdistinct, hagain⟩ := exists_of_settle_eq_cyclic h List.nodup_nil
  exact ⟨halong, hdistinct, hagain⟩

theorem exists_along_eq_none
    (h : ∀ chain, document.settle field required passed description target list ≠ .error (.cyclicReference chain)) :
    ∃ n, document.along target n = none := by
  fun_induction settle document field required passed description target list with
  | case1 passed description target list hnode =>
    refine ⟨1, along_one_eq_none ?_⟩
    simp [next?, hnode]
  | case2 passed description target list node hnode halias hmem => exact absurd rfl (h _)
  | case3 passed description target list node hnode halias hfree s hshape =>
    refine ⟨1, along_one_eq_none ?_⟩
    simp [next?, hnode, hshape]
  | case4 passed description target list node hnode halias hfree next list' hshape _ ih =>
    obtain ⟨n, hn⟩ := ih h
    refine ⟨n + 1, ?_⟩
    rw [along_succ, next?_of_reference hnode halias hshape]
    exact hn
  | case5 passed description target list node hnode halias hfree hscalar hreference =>
    refine ⟨1, along_one_eq_none ?_⟩
    rw [next?, hnode, Option.bind_some]
    split
    · exact absurd ‹_› (hreference _ _)
    · rfl
  | case6 passed description target list node hnode halias =>
    refine ⟨1, along_one_eq_none ?_⟩
    simp [next?, hnode, halias]

/-- A reference is reported as cyclic exactly if it comes to some name again. -/
theorem exists_settle_eq_cyclic_iff :
    (∃ chain, document.settle field required [] description target list = .error (.cyclicReference chain)) ↔
      document.Repeats target := by
  constructor
  · rintro ⟨chain, h⟩
    exact (cycle_of_settle h).repeats
  · intro hrepeats
    by_contra hnot
    obtain ⟨n, hn⟩ := exists_along_eq_none fun chain h => hnot ⟨chain, h⟩
    exact hrepeats.along_ne_none n hn

end Document

/-! ### Conversions -/

/-- Whatever is not an alias is visited while no alias is being inlined. -/
theorem Visit.Regular.inlining_eq_nil {document : Document} {visit : Visit} (h : visit.Regular document)
    (hshape : (∃ values, visit.node.shape = .enum values) ∨
      (∃ properties names, visit.node.shape = .composite properties names) ∨
      ∃ items, visit.node.shape = .inlineArray items) : visit.inlining = [] := by
  by_contra hne
  rcases Node.shape_of_isAlias (h.isAlias hne) with ⟨s, h⟩ | ⟨target, list, h⟩ | h <;> simp [h] at hshape

namespace Converter
variable {converter : Converter} {chain : List String}

/-- A cycle at a place is that of a reference, which stands there or inside the arrays there. -/
theorem exists_reference_of_field {place : Place} (h : converter.field place = .error (.cyclicReference chain)) :
    ∃ lower node target list, place.Inline lower ∧ lower.slot = some node ∧ node.shape = .reference target list ∧
      converter.document.Cycle target chain := by
  induction place using Place.tree_induction with
  | step place ih =>
    cases hslot : place.slot with
    | none =>
      rw [field_of_none hslot] at h
      cases h
    | some node =>
      rw [field_of_some hslot] at h
      cases hshape : node.shape with
      | reference target list =>
        rw [hshape] at h
        exact ⟨place, node, target, list, .root, hslot, hshape, Document.cycle_of_settle h⟩
      | inlineArray inner =>
        rw [hshape] at h
        have hitems : Place.items place.path inner ∈ place.children := by simp [Place.children, hslot, hshape]
        obtain ⟨lower, definition, target, list, hinline, hlower⟩ := ih _ hitems (Conversion.map_eq_error_iff.mp h)
        exact ⟨lower, definition, target, list, (Place.Inline.step .root hitems).trans hinline, hlower⟩
      | _ =>
        rw [hshape] at h
        cases h

/-- Converting a reference reports a cycle exactly if the reference comes to some name again, and the report is the
names up to there. Converting anything reports one only if such a reference is in the inline tree: that other
references go through the same aliases does not matter, since every visit leaves behind those being inlined that were
being inlined before it, and when an enumeration, a composite or an array is visited there are none. -/
theorem convert_cyclicReference (converter : Converter) (name : String) (slot : Option Node) (parent : Option TypePath)
    (required : List String) (walk : Walk) :
    let ending := (converter.convert name slot parent required).run.run walk
    let descent := (converter.visitWithin (converter.document.aliases.length + 1) name slot parent required).run.run
      { walk }
    (∀ node target list, slot = some node → node.shape = .reference target list →
      ((∃ chain, ending.1 = .error (.cyclicReference chain)) ↔ converter.document.Repeats target) ∧
      ∀ chain, ending.1 = .error (.cyclicReference chain) → converter.document.Cycle target chain) ∧
    (∀ chain, ending.1 = .error (.cyclicReference chain) → ∃ place node target list,
      Place.Inline ⟨.nested parent name, slot, required.contains name⟩ place ∧ place.slot = some node ∧
      node.shape = .reference target list ∧ converter.document.Repeats target ∧
      converter.document.Cycle target chain) ∧
    (descent.1 = ending.1.mapError .fault ∧ descent.2.walk = ending.2) ∧
    (∀ (limit : Nat) (name : String) (slot : Option Node) (parent : Option TypePath) (required : List String)
      (before : Descent),
      ((converter.visitWithin limit name slot parent required).run.run before).2.inlining = before.inlining) ∧
    ∀ visit ∈ descent.2.visits,
      ((∃ values, visit.node.shape = .enum values) ∨
        (∃ properties names, visit.node.shape = .composite properties names) ∨
        ∃ items, visit.node.shape = .inlineArray items) → visit.inlining = [] := by
  intro ending descent
  obtain ⟨hsame, hwalk, hvisits⟩ := visitWithin_regular walk
  refine ⟨?_, ?_, ⟨hsame, hwalk⟩, fun _ _ _ _ _ before => visitWithin_restores before,
    fun visit hvisit hshape => (hvisits visit hvisit).inlining_eq_nil hshape⟩
  · rintro node target list rfl hshape
    obtain ⟨hending, -⟩ := (convert_reference_registers hshape).run_of_fresh walk Registry.fresh_nil
    have hiff (chain : List String) : ending.1 = .error (.cyclicReference chain) ↔
        converter.document.settle name (required.contains name) [] node.description target list =
          .error (.cyclicReference chain) := by
      rw [show ending.1 = _ from hending]
      exact Conversion.map_eq_error_iff
    refine ⟨?_, fun chain h => Document.cycle_of_settle ((hiff chain).mp h)⟩
    simp only [hiff]
    exact Document.exists_settle_eq_cyclic_iff
  · intro chain h
    obtain ⟨place, hplace, hfield⟩ := exists_field_of_convert h nofun
    obtain ⟨lower, node, target, list, hinline, hslot, hshape, hcycle⟩ := exists_reference_of_field hfield
    exact ⟨lower, node, target, list, hplace.trans hinline, hslot, hshape, hcycle.repeats, hcycle⟩

/-! ### Aliases that lead into a loop -/

def loops : Converter where
  document := ⟨Definitions.empty
    |>.put "Lead" (some (pointer "Left" false none))
    |>.put "Left" (some (pointer "Right" true none))
    |>.put "Right" (some (pointer "Left" false none))⟩
  root := "Loop"

theorem shape_pointer_lead : (pointer "Lead" true none).val.shape = .reference "Lead" true := by cbv

theorem ending_loops : ((loops.convert "x" (some (pointer "Lead" true none).val) none ["x"]).run.run {}).1 =
    .error (.cyclicReference ["Lead", "Left", "Right", "Left"]) := by cbv

theorem convert_cyclicReference_loops :
    (pointer "Lead" true none).val.shape = .reference "Lead" true ∧
    ((loops.convert "x" (some (pointer "Lead" true none).val) none ["x"]).run.run {}).1 =
      .error (.cyclicReference ["Lead", "Left", "Right", "Left"]) ∧
    loops.document.Repeats "Lead" ∧ loops.document.Cycle "Lead" ["Lead", "Left", "Right", "Left"] := by
  obtain ⟨hreference, -⟩ := convert_cyclicReference loops "x" _ none ["x"] {}
  obtain ⟨hiff, hcycle⟩ := hreference _ "Lead" true rfl shape_pointer_lead
  exact ⟨shape_pointer_lead, ending_loops, hiff.mp ⟨_, ending_loops⟩, hcycle _ ending_loops⟩

end Converter
end SchemaSdl
