import Mathlib.Data.List.Nodup
import SchemaSdl.Proofs.Registering

/-! Following references. It registers nothing, and it succeeds exactly along a finite chain of aliases that
repeats none of them and ends at a scalar or before a definition that is named. -/

namespace SchemaSdl.Document
variable {document : Document} {field target : String} {required list : Bool} {passed : List String}
  {description : Option String} {result : Field}

/-- What following a reference comes to, apart from the notices given. -/
def settle (document : Document) (field : String) (required : Bool) (passed : List String) (description : Option String)
    (target : String) (list : Bool) : Except Fault Field :=
  match hnode : document.get? target with
  | none => .error (.unresolvedReference field target)
  | some node =>
    if node.isAlias then
      if h : target ∈ passed then .error (.cyclicReference (passed ++ [target]))
      else
        match node.shape with
        | .scalar scalar => .ok ⟨.scalar scalar, node.description, required⟩
        | .reference next list =>
          have := length_notPassed_lt hnode h
          settle document field required (passed ++ [target]) node.description next list
        | _ => .error (.unmappable field none)
    else
      let label := Label.named target
      .ok ⟨if list then .list label else label, written? description <|> written? node.description, required⟩
termination_by (document.notPassed passed).length

theorem follow_of_none (hnode : document.get? target = none) :
    document.follow field required passed description target list = throw (.unresolvedReference field target) := by
  rw [follow]
  split
  · rfl
  · simp_all

theorem follow_of_some {node : Node} (hnode : document.get? target = some node) :
    document.follow field required passed description target list =
      if node.isAlias then
        if target ∈ passed then throw (.cyclicReference (passed ++ [target]))
        else do
          Conversion.note (.classifying field (.nested none field))
          match node.shape with
          | .scalar scalar => return ⟨.scalar scalar, node.description, required⟩
          | .reference next list => document.follow field required (passed ++ [target]) node.description next list
          | _ => throw (.unmappable field none)
      else
        return ⟨if list then .list (.named target) else .named target,
          written? description <|> written? node.description, required⟩ := by
  rw [follow]
  split
  · simp_all
  · obtain rfl := Option.some.inj (hnode.symm.trans ‹_›)
    rfl

theorem settle_of_none (hnode : document.get? target = none) :
    document.settle field required passed description target list = .error (.unresolvedReference field target) := by
  rw [settle]
  split
  · rfl
  · simp_all

theorem settle_of_some {node : Node} (hnode : document.get? target = some node) :
    document.settle field required passed description target list =
      if node.isAlias then
        if target ∈ passed then .error (.cyclicReference (passed ++ [target]))
        else
          match node.shape with
          | .scalar scalar => .ok ⟨.scalar scalar, node.description, required⟩
          | .reference next list => document.settle field required (passed ++ [target]) node.description next list
          | _ => .error (.unmappable field none)
      else
        .ok ⟨if list then .list (.named target) else .named target,
          written? description <|> written? node.description, required⟩ := by
  rw [settle]
  split
  · simp_all
  · obtain rfl := Option.some.inj (hnode.symm.trans ‹_›)
    simp only [dite_eq_ite]

/-- Of a document no more is looked at than what stands under each name. -/
theorem settle_congr {other : Document} (h : ∀ name, document.get? name = other.get? name) :
    document.settle field required passed description target list =
      other.settle field required passed description target list := by
  fun_induction settle document field required passed description target list with
  | case1 passed description target list hnode => rw [settle_of_none ((h target).symm.trans hnode)]
  | case2 passed description target list node hnode halias hpassed =>
    rw [settle_of_some ((h target).symm.trans hnode), if_pos halias, if_pos hpassed]
  | case3 passed description target list node hnode halias hpassed s hs =>
    rw [settle_of_some ((h target).symm.trans hnode), if_pos halias, if_neg hpassed, hs]
  | case4 passed description target list node hnode halias hpassed next list' hs _ ih =>
    rw [settle_of_some ((h target).symm.trans hnode), if_pos halias, if_neg hpassed, hs]
    exact ih
  | case5 passed description target list node hnode halias hpassed hs hr =>
    rw [settle_of_some ((h target).symm.trans hnode), if_pos halias, if_neg hpassed]
    cases hshape : node.shape with
    | scalar s => exact absurd hshape (hs s)
    | reference target list => exact absurd hshape (hr target list)
    | _ => rfl
  | case6 passed description target list node hnode halias =>
    rw [settle_of_some ((h target).symm.trans hnode), if_neg halias]

theorem follow_registers : (document.follow field required passed description target list).Registers []
    (document.settle field required passed description target list) := by
  fun_induction settle document field required passed description target list with
  | case1 passed description target list hnode =>
    rw [follow_of_none hnode]
    exact Conversion.registers_throw
  | case2 passed description target list node hnode halias hpassed =>
    rw [follow_of_some hnode, if_pos halias, if_pos hpassed]
    exact Conversion.registers_throw
  | case3 passed description target list node hnode halias hpassed s hs =>
    rw [follow_of_some hnode, if_pos halias, if_neg hpassed, hs]
    exact Conversion.registers_note.bind Conversion.registers_pure
  | case4 passed description target list node hnode halias hpassed next list' hs _ ih =>
    rw [follow_of_some hnode, if_pos halias, if_neg hpassed, hs]
    exact Conversion.registers_note.bind ih
  | case5 passed description target list node hnode halias hpassed hs hr =>
    rw [follow_of_some hnode, if_pos halias, if_neg hpassed]
    refine Conversion.registers_note.bind ?_
    split
    · exact absurd ‹_› (hs _)
    · exact absurd ‹_› (hr _ _)
    · exact Conversion.registers_throw
  | case6 passed description target list node hnode halias =>
    rw [follow_of_some hnode, if_neg halias]
    exact Conversion.registers_pure

/-! ### Chains of aliases -/

/-- From a name, a chain of aliases leads to a definition that references name, or to a scalar. Each alias
refers to the next, and the last one of them to that definition or is itself the scalar. -/
inductive Leads (document : Document) : String → List String → Prop
  | named {target : String} {node : Node} (hnode : document.get? target = some node) (h : node.isAlias = false) :
      Leads document target []
  | scalar {target : String} {node : Node} {s : Scalar} (hnode : document.get? target = some node)
      (h : node.isAlias = true) (hs : node.shape = .scalar s) : Leads document target [target]
  | step {target next : String} {node : Node} {list : Bool} {chain : List String}
      (hnode : document.get? target = some node) (h : node.isAlias = true) (hs : node.shape = .reference next list)
      (hnext : Leads document next chain) : Leads document target (target :: chain)

/-- Following a reference succeeds along a chain that repeats no alias and none of those passed. -/
theorem exists_settle_eq_ok_iff :
    (∃ result, document.settle field required passed description target list = .ok result) ↔
      ∃ chain, document.Leads target chain ∧ chain.Nodup ∧ ∀ name ∈ chain, name ∉ passed := by
  constructor
  · rintro ⟨result, h⟩
    fun_induction settle document field required passed description target list with
    | case1 | case2 | case5 => cases h
    | case3 passed description target list node hnode halias hpassed s hs =>
      exact ⟨[target], .scalar hnode halias hs, List.nodup_singleton _, by simpa using hpassed⟩
    | case4 passed description target list node hnode halias hpassed next list' hs _ ih =>
      obtain ⟨chain, hleads, hnodup, hfree⟩ := ih h
      refine ⟨target :: chain, .step hnode halias hs hleads, List.nodup_cons.2 ⟨fun hmem => ?_, hnodup⟩, ?_⟩
      · exact hfree target hmem (List.mem_append_right _ (List.mem_singleton_self _))
      · exact List.forall_mem_cons.2 ⟨hpassed, fun name hname hp => hfree name hname (List.mem_append_left _ hp)⟩
    | case6 passed description target list node hnode halias =>
      exact ⟨[], .named hnode (by simpa using halias), List.nodup_nil, nofun⟩
  · rintro ⟨chain, hleads, hnodup, hfree⟩
    -- Along the chain the names passed grow by those before, so the rest must be free of both.
    induction hleads generalizing passed description list with
    | named hnode h =>
      rw [settle_of_some hnode, if_neg (by simp [h])]
      exact ⟨_, rfl⟩
    | @scalar target node s hnode h hs =>
      rw [settle_of_some hnode, if_pos h, if_neg (hfree target (List.mem_singleton_self _)), hs]
      exact ⟨_, rfl⟩
    | @step target next node list' chain hnode h hs hnext ih =>
      obtain ⟨htarget, hchain⟩ := List.forall_mem_cons.1 hfree
      obtain ⟨hnotin, hnodup⟩ := List.nodup_cons.1 hnodup
      rw [settle_of_some hnode, if_pos h, if_neg htarget, hs]
      refine ih hnodup fun name hname hp => ?_
      rcases List.mem_append.1 hp with hp | hp
      · exact hchain name hname hp
      · obtain rfl := List.mem_singleton.1 hp
        exact hnotin hname

/-- What a reference settles on is a scalar, or it names a definition that is no alias. -/
theorem settle_eq_ok (h : document.settle field required passed description target list = .ok result) :
    (∃ s, result.label = .scalar s) ∨ ∃ name node, document.get? name = some node ∧ node.isAlias = false ∧
      (result.label = .named name ∨ result.label = .list (.named name)) := by
  fun_induction settle document field required passed description target list with
  | case1 | case2 | case5 => cases h
  | case3 passed description target list node hnode halias hpassed s hs =>
    cases h
    exact Or.inl ⟨s, rfl⟩
  | case4 passed description target list node hnode halias hpassed next list' hs _ ih => exact ih h
  | case6 passed description target list node hnode halias label =>
    cases h
    refine Or.inr ⟨target, node, hnode, by simpa using halias, ?_⟩
    cases list
    · exact Or.inl rfl
    · exact Or.inr rfl

theorem settle_ne_duplicateType {held refused : TypePath} :
    document.settle field required passed description target list ≠ .error (.duplicateType held refused) := by
  fun_induction settle document field required passed description target list with
  | case4 passed description target list node hnode halias hpassed next list' hs _ ih => exact ih
  | _ => simp

end SchemaSdl.Document
