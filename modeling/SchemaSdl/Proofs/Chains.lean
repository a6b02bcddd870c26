import Mathlib
import SchemaSdl.Proofs.Survey

/-! Chains of aliases. A reference leads along aliases that are references themselves to a last name, and what stands
under that name decides what the property with the reference becomes. Of the hops on the way only the last one counts:
its brackets and its description reach the field, and those of the hops before it are lost. -/

namespace SchemaSdl

/-- A reference is that of the node itself, or else that of its items. -/
theorem Node.list_iff_of_shape {node : Node} {target : String} {list : Bool} (h : node.shape = .reference target list) :
    list = true ↔ node.reference = none ∧ ∃ items reference,
      node.items = some items ∧ items.reference = some reference ∧ referenceTarget reference = target := by
  unfold Node.shape at h
  split at h
  · cases h
  · cases h
  · rename_i reference hreference
    cases h
    simp [hreference]
  · rename_i reference _ _ hnone hitems
    cases h
    obtain ⟨items, hsome, hreference⟩ := Option.bind_eq_some_iff.mp hitems
    exact ⟨fun _ => ⟨hnone, items, reference, hsome, hreference, rfl⟩, fun _ => rfl⟩
  · rw [Node.structuralShape] at h
    unfold Node.arrayShape at h
    repeat' split at h
    all_goals cases h

namespace Document
variable {document : Document} {node last : Node} {aliases passed : List String} {field first target : String}
  {required list list' : Bool}

/-- From a node that is a reference these aliases, each referring to the next, lead to the last reference. -/
inductive Chain (document : Document) : Node → List String → Node → Prop
  | here {node : Node} : Chain document node [] node
  | through {node definition last : Node} {target : String} {list : Bool} {aliases : List String}
      (hshape : node.shape = .reference target list) (hget : document.get? target = some definition)
      (halias : definition.isAlias = true) (hrest : Chain document definition aliases last) :
      Chain document node (target :: aliases) last

theorem Chain.exists_shape (h : document.Chain node aliases last) (hlast : last.shape = .reference target list) :
    ∃ first list', node.shape = .reference first list' := by
  cases h with
  | here => exact ⟨target, list, hlast⟩
  | through hshape => exact ⟨_, _, hshape⟩

/-- Following a reference goes on as from the last reference of its chain, with the aliases of the chain passed. -/
theorem settle_of_chain (h : document.Chain node aliases last) (hnode : node.shape = .reference first list')
    (hlast : last.shape = .reference target list) (hnodup : (passed ++ aliases).Nodup) :
    document.settle field required passed node.description first list' =
      document.settle field required (passed ++ aliases) last.description target list := by
  -- What has been passed grows by the alias at the front of the chain, so the two lists together stay the same.
  induction h generalizing passed first list' with
  | here =>
    obtain ⟨rfl, rfl⟩ := Shape.reference.inj (hnode.symm.trans hlast)
    rw [List.append_nil]
  | @through node definition last next list'' aliases hshape hget halias hrest ih =>
    obtain ⟨rfl, rfl⟩ := Shape.reference.inj (hnode.symm.trans hshape)
    obtain ⟨after, list₂, hdefinition⟩ := hrest.exists_shape hlast
    have hsplit : passed ++ first :: aliases = passed ++ [first] ++ aliases := by simp
    rw [hsplit] at hnodup ⊢
    have hfree : first ∉ passed := by
      have hfront := (List.nodup_append.mp hnodup).1
      intro hmem
      exact (List.nodup_append.mp hfront).2.2 first hmem first (List.mem_singleton_self _) rfl
    rw [settle_of_some hget, if_pos halias, if_neg hfree, hdefinition]
    exact ih hdefinition hlast hnodup

end Document

namespace Converter
variable {converter : Converter} {name target : String} {node : Node} {parent : Option TypePath}
  {required : List String} {list : Bool}

/-- Converting a reference registers nothing and comes to what the reference settles on. -/
theorem convert_reference_registers (h : node.shape = .reference target list) :
    (converter.convert name (some node) parent required).Registers []
      ((converter.document.settle name (required.contains name) [] node.description target list).map
        fun field => ⟨name, field, none⟩) := by
  rw [convert, visit_eq]
  refine Conversion.registers_note.bind ?_
  rw [h]
  exact Document.follow_registers.map

/-- Take a property that is a reference, and the chain of aliases from it to the last reference. Nothing is registered.
If the last name is that of a definition that is no alias, the field names it, in brackets exactly if the last reference
is that of items, and it takes the first description that is written of the last hop and the definition. If it is that
of a scalar alias, the field is that scalar with the alias's own description, never in brackets. An alias without a
shape cannot be mapped, a name without a schema is unresolved, and no alias has any other shape. -/
theorem convert_of_chain (converter : Converter) (name : String) (node last : Node) (parent : Option TypePath)
    (required : List String) (aliases : List String) (target : String) (list : Bool)
    (hchain : converter.document.Chain node aliases last) (hlast : last.shape = .reference target list)
    (hnodup : (aliases ++ [target]).Nodup) (walk : Walk) :
    let ending := (converter.convert name (some node) parent required).run.run walk
    ending.2.registry = walk.registry ∧
    (list = true ↔ last.reference = none ∧ ∃ items reference,
      last.items = some items ∧ items.reference = some reference ∧ referenceTarget reference = target) ∧
    (∀ definition, converter.document.get? target = some definition →
      (definition.isAlias = false → ending.1 = .ok
        ⟨name, ⟨if list then .list (.named target) else .named target,
          written? last.description <|> written? definition.description, required.contains name⟩, none⟩) ∧
      (definition.isAlias = true →
        (∀ s, definition.shape = .scalar s →
          ending.1 = .ok ⟨name, ⟨.scalar s, definition.description, required.contains name⟩, none⟩) ∧
        (definition.shape = .unmapped → ending.1 = .error (.unmappable name none)) ∧
        ((∃ s, definition.shape = .scalar s) ∨ (∃ next list, definition.shape = .reference next list) ∨
          definition.shape = .unmapped))) ∧
    (converter.document.get? target = none → ending.1 = .error (.unresolvedReference name target)) := by
  intro ending
  obtain ⟨first, list', hnode⟩ := hchain.exists_shape hlast
  obtain ⟨haliases, -, hdisjoint⟩ := List.nodup_append.mp hnodup
  have hfree : target ∉ aliases := fun hmem => hdisjoint target hmem target (List.mem_singleton_self _) rfl
  have hsettle : converter.document.settle name (required.contains name) [] node.description first list' =
      converter.document.settle name (required.contains name) aliases last.description target list :=
    Document.settle_of_chain hchain hnode hlast haliases
  have hregisters : (converter.convert name (some node) parent required).Registers [] _ :=
    convert_reference_registers hnode
  rw [hsettle] at hregisters
  obtain ⟨hending, hregistry⟩ := hregisters.run_of_fresh walk Registry.fresh_nil
  have hending : ending.1 = _ := hending
  refine ⟨hregistry.trans Registry.append_nil, Node.list_iff_of_shape hlast, fun definition hget => ⟨?_, ?_⟩, ?_⟩
  · intro hnamed
    rw [hending, Document.settle_of_some hget, if_neg (by simp [hnamed])]
    rfl
  · intro halias
    rw [Document.settle_of_some hget, if_pos halias, if_neg hfree] at hending
    refine ⟨fun s hshape => ?_, fun hshape => ?_, Node.shape_of_isAlias halias⟩
    · rw [hending, hshape]
      rfl
    · rw [hending, hshape]
      rfl
  · intro hnone
    rw [hending, Document.settle_of_none hnone]
    rfl

/-! ### Chains to a type, a scalar, an alias without a shape and a name without a schema -/

/-- A node that refers to a definition, itself or by its items. -/
def pointer (name : String) (list : Bool) (description : Option String) : SoundNode :=
  let reference := some ("#/definitions/" ++ name)
  if list then Node.ofParts { items := some (Node.ofParts { reference }), description }
  else Node.ofParts { reference, description }

def money : SoundNode := Node.ofParts
  { type := some "object", properties := some Definitions.empty, description := some "in cents" }

def remark : SoundNode := Node.ofParts { type := some "string", description := some "" }

def invoices : Converter where
  document := ⟨Definitions.empty
    |>.put "Price" (some (pointer "Amount" false (some "lost")))
    |>.put "Amount" (some (pointer "Money" true (some "")))
    |>.put "Money" (some money)
    |>.put "Note" (some (pointer "Remark" true none))
    |>.put "Remark" (some remark)
    |>.put "Blank" (some (Node.ofParts {}))
    |>.put "Gone" none⟩
  root := "Invoice"

theorem shape_pointer_price : (pointer "Price" true (some "lost too")).val.shape = .reference "Price" true := by cbv

theorem shape_price : (pointer "Amount" false (some "lost")).val.shape = .reference "Amount" false := by cbv

theorem shape_amount : (pointer "Money" true (some "")).val.shape = .reference "Money" true := by cbv

theorem chain_price :
    invoices.document.Chain (pointer "Price" true (some "lost too")).val ["Price", "Amount"]
      (pointer "Money" true (some "")).val :=
  .through shape_pointer_price rfl rfl (.through shape_price rfl rfl .here)

theorem convert_of_chain_invoices :
    (invoices.document.Chain (pointer "Price" true (some "lost too")).val ["Price", "Amount"]
        (pointer "Money" true (some "")).val ∧
      (["Price", "Amount"] ++ ["Money"]).Nodup ∧
      ((invoices.convert "total" (some (pointer "Price" true (some "lost too")).val) none ["total"]).run.run {}).1 =
        .ok ⟨"total", ⟨.list (.named "Money"), some "in cents", true⟩, none⟩) ∧
    ((invoices.convert "note" (some (pointer "Note" true none).val) none []).run.run {}).1 =
      .ok ⟨"note", ⟨.scalar .string, some "", false⟩, none⟩ ∧
    ((invoices.convert "x" (some (pointer "Blank" true none).val) (some ⟨"Invoice", []⟩) []).run.run {}).1 =
      .error (.unmappable "x" none) ∧
    ((invoices.convert "y" (some (pointer "Gone" false none).val) none []).run.run {}).1 =
      .error (.unresolvedReference "y" "Gone") := by
  have hnote : (pointer "Note" true none).val.shape = .reference "Note" true := by cbv
  have hremark : (pointer "Remark" true none).val.shape = .reference "Remark" true := by cbv
  have hblank : (pointer "Blank" true none).val.shape = .reference "Blank" true := by cbv
  have hgone : (pointer "Gone" false none).val.shape = .reference "Gone" false := by cbv
  obtain ⟨-, -, hmoney, -⟩ := convert_of_chain invoices "total" _ _ none ["total"] _ "Money" true chain_price
    shape_amount (by decide) {}
  obtain ⟨-, -, htext, -⟩ := convert_of_chain invoices "note" _ _ none [] _ "Remark" true
    (.through hnote rfl rfl .here) hremark (by decide) {}
  obtain ⟨-, -, hshapeless, -⟩ := convert_of_chain invoices "x" _ _ (some ⟨"Invoice", []⟩) [] _ "Blank" true
    .here hblank (by decide) {}
  obtain ⟨-, -, -, hnull⟩ := convert_of_chain invoices "y" _ _ none [] _ "Gone" false .here hgone (by decide) {}
  exact ⟨⟨chain_price, by decide, (hmoney _ rfl).1 rfl⟩, ((htext _ rfl).2 rfl).1 _ rfl,
    ((hshapeless _ rfl).2 rfl).2.1 rfl, hnull rfl⟩

end Converter
end SchemaSdl
