import SchemaSdl.Proofs.Json.Solid
import SchemaSdl.Proofs.Loading

/-! What comes after a document. The loader does not ask whether its text is at an end, and what there is behind the
document makes no difference to it. -/

namespace SchemaSdl
open Json (Reader)

theorem solid_textList (room : Nat) : (textList room).Solid := by
  refine Reader.Solid.listOf fun reader hreader => ?_
  split at hreader
  · cases hreader
  · cases hreader
    exact Reader.solid_text

theorem solid_schemasOf {node : Option (Reader SoundNode)} (hnode : ∀ reader ∈ node, reader.Solid) :
    (schemasOf node).Solid := by
  refine Reader.Solid.object fun read hread definitions name => ?_
  obtain ⟨reader, hreader, rfl⟩ := Option.map_eq_some_iff.mp hread
  exact (hnode reader hreader).optional.map _

theorem solid_nodeSlots {properties : Reader Definitions} {items : Reader SoundNode} {texts : Reader (List String)}
    (hproperties : properties.Solid) (hitems : items.Solid) (htexts : texts.Solid) :
    ∀ slot ∈ nodeSlots properties items texts, slot.value.Solid := by
  simp only [nodeSlots, List.forall_mem_cons, List.not_mem_nil, false_imp_iff, implies_true, and_true]
  exact ⟨Reader.solid_text.optional.map _, hproperties.optional.map _, hitems.optional.map _,
    Reader.solid_text.optional.map _, htexts.optional.map _, htexts.optional.map _, Reader.solid_text.optional.map _⟩

theorem solid_schemasIn_of {room : Nat} (h : ∀ inner < room, (nodeIn inner).Solid) : (schemasIn room).Solid := by
  refine solid_schemasOf fun reader hreader => ?_
  cases room with
  | zero => cases hreader
  | succ inner =>
    cases hreader
    exact h inner (Nat.lt_succ_self inner)

theorem solid_nodeIn (room : Nat) : (nodeIn room).Solid := by
  -- Items are read in one room less, and properties in two, which is why the induction is a strong one.
  induction room using Nat.strong_induction_on with
  | _ room ih =>
    cases room with
    | zero =>
      refine (Reader.Solid.record _ _ fun known hknown => ?_).map _
      cases hknown
    | succ room =>
      rw [nodeIn_succ]
      refine (Reader.Solid.record _ _ fun known hknown => ?_).map _
      cases hknown
      have hproperties := solid_schemasIn_of fun inner hinner => ih inner (Nat.lt_succ_of_lt hinner)
      exact solid_nodeSlots hproperties (ih room (Nat.lt_succ_self room)) (solid_textList room)

theorem solid_schemasIn (room : Nat) : (schemasIn room).Solid := solid_schemasIn_of fun inner _ => solid_nodeIn inner

theorem solid_componentsIn (room : Nat) : (componentsIn room).Solid := by
  refine Reader.Solid.record _ _ fun known hknown => ?_
  cases room with
  | zero => cases hknown
  | succ inner =>
    cases hknown
    simp only [List.forall_mem_cons, List.not_mem_nil, false_imp_iff, implies_true, and_true]
    exact (solid_schemasIn inner).map _

theorem solid_documentIn (room : Nat) : (documentIn room).Solid := by
  refine (Reader.Solid.record _ _ fun known hknown => ?_).map _
  split at hknown
  · cases hknown
  · cases hknown
    simp only [List.forall_mem_cons, List.not_mem_nil, false_imp_iff, implies_true, and_true]
    exact ⟨(solid_schemasIn _).optional.map _, (solid_componentsIn _).optional.map _⟩

theorem Document.loadBytes_append {bytes : List UInt8} {document : Document} (h : loadBytes bytes = .ok document)
    (more : List UInt8) : loadBytes (bytes ++ more) = .ok document := by
  rw [loadBytes, Reader.run] at h
  split at h
  · rename_i taken htaken
    cases h
    obtain ⟨_, hread⟩ := (solid_documentIn nestingLimit).firm _ _ _ (Reader.takes_of_eq htaken) more
    rw [loadBytes, Reader.run, hread]
  · cases h

/-- A text that is loaded as a document is loaded as the same document when another text comes after it, and its bytes
are when any bytes do, be they text or not. -/
theorem Document.load_append (text : String) (document : Document) (h : load text = .ok document) :
    (∀ more : String, load (text ++ more) = .ok document) ∧
    ∀ more : List UInt8, loadBytes (text.toUTF8.toList ++ more) = .ok document := by
  refine ⟨fun more => ?_, fun more => loadBytes_append h more⟩
  rw [load, Json.toUTF8_toList, String.toList_append, Json.bytes_append, ← Json.toUTF8_toList]
  exact loadBytes_append h _

theorem Document.load_append_crates :
    (∃ document, load cratesAtRoot.printed = .ok document ∧ load (cratesAtRoot.printed ++ "]x\"") = .ok document ∧
      load (cratesAtRoot.printed ++ cratesAtRoot.printed) = .ok document) ∧
    ∃ document, load cratesInComponents.printed = .ok document ∧
      loadBytes (cratesInComponents.printed.toUTF8.toList ++ [0xFF, 0x00]) = .ok document := by
  have hroot := load_eq (.atRoot (by decide) (by decide) rfl writes_cratesObject) cratesAtRoot.writtenAs_printed
    (by decide)
  have hcomponents := load_eq (.inComponents (by decide) (.tail _ (.head _)) rfl (by decide) rfl writes_cratesObject)
    cratesInComponents.writtenAs_printed (by decide)
  obtain ⟨htext, -⟩ := load_append _ _ hroot
  obtain ⟨-, hbytes⟩ := load_append _ _ hcomponents
  exact ⟨⟨_, hroot, htext _, htext _⟩, _, hcomponents, hbytes _⟩

end SchemaSdl
