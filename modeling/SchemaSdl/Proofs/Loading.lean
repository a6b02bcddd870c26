import SchemaSdl.Proofs.Json.Printing
import SchemaSdl.Proofs.Json.Reading
import SchemaSdl.Proofs.Merging
import SchemaSdl.Proofs.Writing

/-! Loading undoes writing. However a document is written, it is loaded with the members that were written, repeated
names merged. -/

namespace SchemaSdl
open Json (Reader Value)

/-! ### What has been written -/

/-- A node as it is loaded. -/
def Node.sound (node : Node) : SoundNode := ⟨node.merged, node.wellFormed_merged⟩

namespace Definitions

/-- A slot as it is loaded behind others. -/
def take (definitions : Definitions) (slot : String × Option Node) : Definitions :=
  definitions.put slot.1 (slot.2.map Node.sound)

/-- Slots as they are loaded. -/
def ofSlots (slots : List (String × Option Node)) : Definitions := slots.foldl take .empty

theorem members_ofSlots (slots : List (String × Option Node)) :
    (ofSlots slots).members = Members.merged (slots.map fun slot => (slot.1, slot.2.map Node.merged)) := by
  have htake (definitions : Definitions) : (slots.foldl take definitions).members =
      (slots.map fun slot => (slot.1, slot.2.map Node.merged)).foldl
        (fun members pair => members.put pair.1 pair.2) definitions.members := by
    induction slots generalizing definitions with
    | nil => rfl
    | cons slot slots ih =>
      have hslot : (definitions.take slot).members = definitions.members.put slot.1 (slot.2.map Node.merged) := by
        simp only [take, put, Option.map_map]
        rfl
      rw [List.foldl_cons, ih, List.map_cons, List.foldl_cons, hslot]
  rw [ofSlots, htake, ← Members.ofPairs_eq_merged]
  rfl

end Definitions

/-- The parts of a node as they are loaded. -/
def Node.parts (node : Node) : Node.Parts :=
  { type := node.type, properties := node.properties.map Definitions.ofSlots, items := node.items.map Node.sound,
    reference := node.reference, values := node.values, required := node.required, description := node.description }

theorem Node.ofParts_parts (node : Node) : Node.ofParts node.parts = node.sound := by
  refine Subtype.ext ?_
  change (ofParts node.parts).val = node.merged
  rw [merged_eq]
  simp only [ofParts, parts, sound, Option.map_map, Function.comp_def, Definitions.members_ofSlots]

/-! ### Members -/

section Members
variable {members : List (String × Value)} {key : String} {value : Value}

theorem lookup_of_not_mem (h : key ∉ members.map Prod.fst) : members.lookup key = none :=
  List.lookup_eq_none_iff.mpr fun _ hmember => bne_iff_ne.mpr fun heq => h (heq ▸ List.mem_map_of_mem hmember)

theorem mem_of_lookup (h : members.lookup key = some value) : key ∈ members.map Prod.fst := by
  by_contra hmem
  rw [lookup_of_not_mem hmem] at h
  cases h

/-- A name that comes up once stands for the value beside it. -/
theorem lookup_of_count (hmem : (key, value) ∈ members) (honce : (members.map Prod.fst).count key ≤ 1) :
    members.lookup key = some value := by
  obtain ⟨before, after, rfl⟩ := List.mem_iff_append.mp hmem
  refine List.lookup_eq_some_iff.mpr ⟨before, after, rfl, fun member hmember => ?_⟩
  have hne : key ∉ before.map Prod.fst := by
    intro hbefore
    have hpos := List.count_pos_iff.mpr hbefore
    rw [List.map_append, List.count_append, List.map_cons, List.count_cons_self] at honce
    omega
  have hname : member.1 ∈ before.map Prod.fst := List.mem_map_of_mem hmember
  exact bne_iff_ne.mpr fun heq => hne (heq ▸ hname)

theorem depth_le_memberDepth {member : String × Value} (h : member ∈ members) :
    member.2.depth ≤ Value.memberDepth members := by
  induction members with
  | nil => cases h
  | cons first members ih =>
    rw [Value.memberDepth]
    rcases List.mem_cons.mp h with rfl | h
    · exact Nat.le_max_left _ _
    · exact Nat.le_trans (ih h) (Nat.le_max_right _ _)

end Members

/-! ### Parts -/

section Parts
variable {α β : Type} {R : α → Value → Prop} {reader : Reader β} {value : Value} {found : Option Value} {a : Option α}
  {f : α → β} {room : Nat}

theorem WritesPart.eq_none (h : WritesPart R a found) (hfound : found = none) : a = none := by
  subst hfound
  cases h
  rfl

/-- A part is read, and null as its absence. -/
theorem WritesPart.reads (h : WritesPart R a found) (hfound : found = some value)
    (hreads : ∀ a, R a value → value ≠ .null ∧ reader.Reads value (f a)) :
    (Reader.optional reader).Reads value (a.map f) := by
  subst hfound
  cases h with
  | null => exact Reader.reads_null reader
  | present h =>
    obtain ⟨hne, hread⟩ := hreads _ h
    exact hread.optional hne

theorem WritesPart.reads_self {reader : Reader α} (h : WritesPart R a found) (hfound : found = some value)
    (hreads : ∀ a, R a value → value ≠ .null ∧ reader.Reads value a) : (Reader.optional reader).Reads value a := by
  have hread : (Reader.optional reader).Reads value (a.map id) := h.reads hfound hreads
  rwa [Option.map_id] at hread

theorem WritesText.reads {s : String} (h : WritesText s value) : value ≠ .null ∧ Reader.text.Reads value s := by
  obtain ⟨s⟩ := h
  exact ⟨Value.noConfusion, Reader.reads_text s⟩

theorem WritesTexts.reads {texts : List String} (h : WritesTexts texts value) (hdepth : value.depth ≤ room) :
    value ≠ .null ∧ (textList room).Reads value texts := by
  obtain ⟨texts⟩ := h
  have hroom : room ≠ 0 := by
    rintro rfl
    exact absurd hdepth (Nat.not_succ_le_zero _)
  refine ⟨Value.noConfusion, ?_⟩
  rw [textList, if_neg hroom]
  refine Reader.reads_list ?_
  rw [List.forall₂_map_left_iff, List.forall₂_same]
  exact fun s _ => Reader.reads_text s

theorem WritesSlots.exists_object {slots : List (String × Option α)} (h : WritesSlots R slots value) :
    ∃ members, value = .object members := by
  cases h with
  | nil => exact ⟨_, rfl⟩
  | empty => exact ⟨_, rfl⟩
  | filled => exact ⟨_, rfl⟩

theorem Node.Writes.exists_object {node : Node} (h : node.Writes value) : ∃ members, value = .object members := by
  obtain ⟨⟩ := h
  exact ⟨_, rfl⟩

theorem WritesSlots.ne_null {slots : List (String × Option α)} (h : WritesSlots R slots value) : value ≠ .null := by
  obtain ⟨members, rfl⟩ := h.exists_object
  exact Value.noConfusion

theorem Node.Writes.ne_null {node : Node} (h : node.Writes value) : value ≠ .null := by
  obtain ⟨members, rfl⟩ := h.exists_object
  exact Value.noConfusion

end Parts

/-! ### Schemas -/

/-- Slots are taken up one after another. -/
theorem steps_slots {node : Reader SoundNode} {slots : List (String × Option Node)} {members : List (String × Value)}
    (h : WritesSlots Node.Writes slots (.object members))
    (hnode : ∀ member ∈ members, ∀ inner, Node.Writes inner member.2 → node.Reads member.2 inner.sound)
    (definitions : Definitions) :
    Reader.Steps (fun definitions name => .ok do return definitions.put name (← .optional node)) definitions members
      (slots.foldl Definitions.take definitions) := by
  generalize hvalue : Value.object members = value at h
  induction h generalizing members definitions with
  | nil =>
    obtain rfl := Value.object.inj hvalue
    exact .nil definitions
  | @empty slots rest name _ ih =>
    obtain rfl := Value.object.inj hvalue
    obtain ⟨-, hnode⟩ := List.forall_mem_cons.mp hnode
    have hread := (Reader.reads_null node).map fun slot => definitions.put name slot
    exact .cons rfl hread (ih hnode (definitions.take (name, none)) rfl)
  | @filled slots rest inner value name h _ ih =>
    obtain rfl := Value.object.inj hvalue
    obtain ⟨hfirst, hnode⟩ := List.forall_mem_cons.mp hnode
    have hread := ((hfirst inner h).optional h.ne_null).map fun slot => definitions.put name slot
    exact .cons rfl hread (ih hnode (definitions.take (name, some inner)) rfl)

/-- Schemas in their object. -/
theorem reads_schemas {room : Nat} {slots : List (String × Option Node)} {value : Value}
    (h : WritesSlots Node.Writes slots value) (hdepth : value.depth ≤ room)
    (hnode : ∀ inner < room, ∀ node value, Node.Writes node value → value.depth ≤ inner →
      (nodeIn inner).Reads value node.sound) :
    (schemasIn room).Reads value (Definitions.ofSlots slots) := by
  obtain ⟨members, rfl⟩ := h.exists_object
  cases room with
  | zero => exact absurd hdepth (Nat.not_succ_le_zero _)
  | succ inner =>
    refine Reader.reads_object (steps_slots h (fun member hmember node hwrites => ?_) .empty)
    refine hnode inner (Nat.lt_succ_self inner) node member.2 hwrites ?_
    exact Nat.le_trans (depth_le_memberDepth hmember) (Nat.le_of_succ_le_succ hdepth)

/-! ### Nodes -/

theorem nodeIn_succ (room : Nat) : nodeIn (room + 1) = do
    return Node.ofParts (← .record "struct SchemaNode"
      (some (nodeSlots (schemasIn room) (nodeIn room) (textList room))) {}) := by
  cases room with
  | zero => exact Eq.refl _
  | succ inner => exact Eq.refl _

section Nodes
variable {room : Nat} {node : Node} {members : List (String × Value)} {value : Value}

/-- The parts of a node whose keys have come up. -/
def Node.partsIn (node : Node) (seen : List String) : Node.Parts :=
  { type := if "type" ∈ seen then node.type else none
    properties := if "properties" ∈ seen then node.properties.map Definitions.ofSlots else none
    items := if "items" ∈ seen then node.items.map Node.sound else none
    reference := if "$ref" ∈ seen then node.reference else none
    values := if "enum" ∈ seen then node.values else none
    required := if "required" ∈ seen then node.required else none
    description := if "description" ∈ seen then node.description else none }

theorem Node.partsIn_nil (node : Node) : node.partsIn [] = {} := by simp [partsIn]

theorem Node.Writes.count_le (h : node.Writes (.object members)) {key : String} (hkey : key ∈ Node.keys) :
    (members.map Prod.fst).count key ≤ 1 := by
  cases h with
  | object once => exact once key hkey

theorem names_nodeSlots (properties : Reader Definitions) (items : Reader SoundNode) (texts : Reader (List String)) :
    (nodeSlots properties items texts).map Reader.Slot.name = Node.keys := rfl

theorem name_mem_keys {slot : Reader.Slot Node.Parts} {properties : Reader Definitions} {items : Reader SoundNode}
    {texts : Reader (List String)} (h : slot ∈ nodeSlots properties items texts) : slot.name ∈ Node.keys :=
  names_nodeSlots properties items texts ▸ List.mem_map_of_mem h

theorem reads_nodeSlot (hwrites : node.Writes (.object members)) (hdepth : Value.memberDepth members ≤ room)
    (hnode : ∀ inner ≤ room, ∀ node value, Node.Writes node value → value.depth ≤ inner →
      (nodeIn inner).Reads value node.sound)
    {member : String × Value} (hmember : member ∈ members) {slot : Reader.Slot Node.Parts}
    (hslot : slot ∈ nodeSlots (schemasIn room) (nodeIn room) (textList room)) (hname : slot.name = member.1) :
    ∃ change, slot.value.Reads member.2 change ∧
      ∀ seen, change (node.partsIn seen) = node.partsIn (slot.name :: seen) := by
  cases hwrites with
  | object once type properties items reference values required description =>
    obtain ⟨key, value⟩ := member
    obtain rfl : slot.name = key := hname
    have hvalue : value.depth ≤ room := Nat.le_trans (depth_le_memberDepth hmember) hdepth
    have hfound : members.lookup slot.name = some value := lookup_of_count hmember (once _ (name_mem_keys hslot))
    simp only [nodeSlots, List.mem_cons, List.not_mem_nil, or_false] at hslot
    rcases hslot with rfl | rfl | rfl | rfl | rfl | rfl | rfl
    · exact ⟨_, (type.reads_self hfound fun _ h => h.reads).map _, fun seen => by simp [Node.partsIn]⟩
    · have hread := properties.reads hfound fun slots h =>
        ⟨h.ne_null, reads_schemas h hvalue fun inner hinner => hnode inner (Nat.le_of_lt hinner)⟩
      exact ⟨_, hread.map _, fun seen => by simp [Node.partsIn]⟩
    · have hread := items.reads hfound fun inner h => ⟨h.ne_null, hnode room (Nat.le_refl room) inner value h hvalue⟩
      exact ⟨_, hread.map _, fun seen => by simp [Node.partsIn]⟩
    · exact ⟨_, (reference.reads_self hfound fun _ h => h.reads).map _, fun seen => by simp [Node.partsIn]⟩
    · exact ⟨_, (values.reads_self hfound fun _ h => h.reads hvalue).map _, fun seen => by simp [Node.partsIn]⟩
    · exact ⟨_, (required.reads_self hfound fun _ h => h.reads hvalue).map _, fun seen => by simp [Node.partsIn]⟩
    · exact ⟨_, (description.reads_self hfound fun _ h => h.reads).map _, fun seen => by simp [Node.partsIn]⟩

/-- Once all members have been taken up the record has all parts of the node. -/
theorem Node.Writes.partsIn_eq (hwrites : node.Writes (.object members)) {seen : List String}
    (hseen : ∀ key ∈ Node.keys, key ∈ members.map Prod.fst → key ∈ seen) : node.partsIn seen = node.parts := by
  have hkeep {α : Type} {part : Option α} {key : String} (hkey : key ∈ Node.keys)
      (habsent : members.lookup key = none → part = none) : (if key ∈ seen then part else none) = part := by
    split
    · rfl
    · rename_i hmem
      exact (habsent (lookup_of_not_mem fun h => hmem (hseen key hkey h))).symm
  cases hwrites with
  | object once type properties items reference values required description =>
    have hproperties : members.lookup "properties" = none → node.properties.map Definitions.ofSlots = none :=
      fun h => by rw [properties.eq_none h, Option.map_none]
    have hitems : members.lookup "items" = none → node.items.map Node.sound = none :=
      fun h => by rw [items.eq_none h, Option.map_none]
    rw [partsIn, hkeep (by decide) type.eq_none, hkeep (by decide) hproperties, hkeep (by decide) hitems,
      hkeep (by decide) reference.eq_none, hkeep (by decide) values.eq_none, hkeep (by decide) required.eq_none,
      hkeep (by decide) description.eq_none, parts]

/-- However a node is written, it is read where there is room for what is inside it. -/
theorem reads_node (hwrites : node.Writes value) (hdepth : value.depth ≤ room) :
    (nodeIn room).Reads value node.sound := by
  -- Items are read in one room less, and properties in two, which is why the induction is a strong one.
  induction room using Nat.strong_induction_on generalizing node value with
  | _ room ih =>
    obtain ⟨members, rfl⟩ := hwrites.exists_object
    cases room with
    | zero => exact absurd hdepth (Nat.not_succ_le_zero _)
    | succ room =>
      have hnode : ∀ inner ≤ room, ∀ node value, Node.Writes node value → value.depth ≤ inner →
          (nodeIn inner).Reads value node.sound :=
        fun inner hinner node value h hvalue => ih inner (Nat.lt_succ_of_le hinner) h hvalue
      have hneeded : ∀ slot ∈ nodeSlots (schemasIn room) (nodeIn room) (textList room), slot.needed = false := by
        simp [nodeSlots]
      have hfull (seen : List String) (hseen : ∀ slot ∈ nodeSlots (schemasIn room) (nodeIn room) (textList room),
          slot.name ∈ members.map Prod.fst → slot.name ∈ seen) : node.partsIn seen = node.parts := by
        refine hwrites.partsIn_eq fun key hkey hmem => ?_
        rw [← names_nodeSlots (schemasIn room) (nodeIn room) (textList room)] at hkey
        obtain ⟨slot, hslot, rfl⟩ := List.mem_map.mp hkey
        exact hseen slot hslot hmem
      have hread := Reader.reads_record_of_slots "struct SchemaNode" node.partsIn node.parts node.partsIn_nil
        (fun slot hslot => hwrites.count_le (name_mem_keys hslot)) hneeded
        (fun member hmember slot hslot hname =>
          reads_nodeSlot hwrites (Nat.le_of_succ_le_succ hdepth) hnode hmember hslot hname) hfull
      rw [nodeIn_succ, ← node.ofParts_parts]
      exact hread.map Node.ofParts

end Nodes

/-! ### Documents -/

section Documents
variable {room : Nat} {slots : List (String × Option Node)} {value : Value}

theorem reads_definitions (h : WritesSlots Node.Writes slots value) (hdepth : value.depth ≤ room) :
    (schemasIn room).Reads value (Definitions.ofSlots slots) :=
  reads_schemas h hdepth fun _ _ _ _ hwrites hinner => reads_node hwrites hinner

theorem reads_components {parts : List (String × Value)} (honce : (parts.map Prod.fst).count "schemas" ≤ 1)
    (hfound : parts.lookup "schemas" = some value) (h : WritesSlots Node.Writes slots value)
    (hdepth : (Value.object parts).depth ≤ room) :
    (componentsIn room).Reads (.object parts) (Definitions.ofSlots slots) := by
  cases room with
  | zero => exact absurd hdepth (Nat.not_succ_le_zero _)
  | succ room =>
    rw [componentsIn]
    refine Reader.reads_record_of_slots "struct RawComponents"
      (fun seen => if "schemas" ∈ seen then Definitions.ofSlots slots else .empty) _ ?_ ?_ ?_ ?_ ?_
    · simp
    · simpa using honce
    · simp
    · rintro ⟨key, value'⟩ hmember slot hslot hname
      obtain rfl := List.mem_singleton.mp hslot
      obtain rfl : "schemas" = key := hname
      obtain rfl := Option.some.inj ((lookup_of_count hmember honce).symm.trans hfound)
      have hvalue : value'.depth ≤ room :=
        Nat.le_trans (depth_le_memberDepth hmember) (Nat.le_of_succ_le_succ hdepth)
      exact ⟨_, (reads_definitions h hvalue).map _, fun seen => by simp⟩
    · intro seen hseen
      exact if_pos (hseen _ List.mem_cons_self (mem_of_lookup hfound))

/-- However a document is written, it is read where there is room for what is inside it. -/
theorem reads_document (h : Document.Writes slots value) (hdepth : value.depth ≤ room) :
    (documentIn room).Reads value ⟨Definitions.ofSlots slots⟩ := by
  obtain ⟨members, rfl⟩ : ∃ members, value = .object members := by
    cases h <;> exact ⟨_, rfl⟩
  cases room with
  | zero => exact absurd hdepth (Nat.not_succ_le_zero _)
  | succ room =>
    have hvalue {member : String × Value} (hmember : member ∈ members) : member.2.depth ≤ room :=
      Nat.le_trans (depth_le_memberDepth hmember) (Nat.le_of_succ_le_succ hdepth)
    rw [documentIn, if_neg (Nat.succ_ne_zero room)]
    cases h with
    | @atRoot _ written once alone definitions h =>
      have hdocument : (⟨Definitions.ofSlots slots⟩ : Document) =
          Sources.document { definitions := some (Definitions.ofSlots slots) } := rfl
      rw [hdocument]
      refine (Reader.reads_record_of_slots "struct RawDocument"
        (fun seen => { definitions := if "definitions" ∈ seen then some (Definitions.ofSlots slots) else none })
        { definitions := some (Definitions.ofSlots slots) } ?_ ?_ ?_ ?_ ?_).map Sources.document
      · simp
      · simpa [List.count_eq_zero.mpr alone] using once
      · simp
      · rintro ⟨key, value⟩ hmember slot hslot hname
        simp only [List.mem_cons, List.not_mem_nil, or_false] at hslot
        rcases hslot with rfl | rfl
        · obtain rfl : "definitions" = key := hname
          obtain rfl := Option.some.inj ((lookup_of_count hmember once).symm.trans definitions)
          have hread := (reads_definitions h (hvalue hmember)).optional h.ne_null
          exact ⟨_, hread.map _, fun seen => by simp⟩
        · obtain rfl : "components" = key := hname
          exact absurd (List.mem_map_of_mem hmember) alone
      · intro seen hseen
        rw [if_pos (hseen _ List.mem_cons_self (mem_of_lookup definitions))]
    | @inComponents _ parts written once definitions components once' schemas h =>
      have hdocument : (⟨Definitions.ofSlots slots⟩ : Document) =
          Sources.document { components := some (Definitions.ofSlots slots) } := rfl
      rw [hdocument]
      refine (Reader.reads_record_of_slots "struct RawDocument"
        (fun seen => { components := if "components" ∈ seen then some (Definitions.ofSlots slots) else none })
        { components := some (Definitions.ofSlots slots) } ?_ ?_ ?_ ?_ ?_).map Sources.document
      · simp
      · simpa using once
      · simp
      · rintro ⟨key, value⟩ hmember slot hslot hname
        simp only [List.mem_cons, List.not_mem_nil, or_false] at hslot
        rcases hslot with rfl | rfl
        · obtain rfl : "definitions" = key := hname
          rw [lookup_of_count hmember (once _ (by simp))] at definitions
          obtain rfl : value = .null := by simpa using definitions
          exact ⟨_, (Reader.reads_null _).map _, fun seen => by simp⟩
        · obtain rfl : "components" = key := hname
          obtain rfl := Option.some.inj ((lookup_of_count hmember (once _ (by simp))).symm.trans components)
          have hread := (reads_components once' schemas h (hvalue hmember)).optional Value.noConfusion
          exact ⟨_, hread.map _, fun seen => by simp⟩
      · intro seen hseen
        rw [if_pos (hseen _ (List.mem_cons_of_mem _ List.mem_cons_self) (mem_of_lookup components))]

theorem Document.load_eq {text : String} (h : Document.Writes slots value) (htext : value.WrittenAs text)
    (hdepth : value.depth ≤ nestingLimit) : Document.load text = .ok ⟨Definitions.ofSlots slots⟩ := by
  obtain ⟨cs, blanks, hcs, hblanks, htext⟩ := htext
  have hlaid : Json.Laid value.tokens text.toUTF8.toList (Json.bytes blanks) :=
    ⟨cs, hcs, by rw [Json.toUTF8_toList, htext, Json.bytes_append]⟩
  obtain ⟨le, hread⟩ := reads_document h hdepth hlaid (Json.stops_blanks hblanks)
  rw [load, loadBytes, Reader.run, hread]

end Documents

/-- Every text of a document, in either place for its schemas and within the nesting limit, is loaded as one and the
same document. It has the schemas that were written; a name of a definition or a property that comes up again keeps its
first place and its last value. -/
theorem Document.load_of_writes (schemas : List (String × Option Node)) :
    ∃ document : Document,
      document.definitions.members =
        Members.merged (schemas.map fun schema => (schema.1, schema.2.map Node.merged)) ∧
      ∀ value text, Document.Writes schemas value → value.WrittenAs text → value.depth ≤ nestingLimit →
        Document.load text = .ok document :=
  ⟨⟨Definitions.ofSlots schemas⟩, Definitions.members_ofSlots schemas, fun _ _ h htext hdepth =>
    Document.load_eq h htext hdepth⟩

/-! ### A sample -/

/-- Two schemas, one of them written twice, and a property that comes up twice. -/
def crates : List (String × Option Node) :=
  [("Crate", some { type := some "array" }), ("Lid", none),
   ("Crate", some
     { type := some "object", required := some [],
       properties := some [("size", some { type := some "string" }), ("lid", none),
         ("size", some { type := some "number", description := some "a \"size\"" })] })]

/-- The object of these schemas, with members of other names, null for what is absent and parts in any order. -/
def cratesObject : Value :=
  .object [("Crate", .object [("type", .text "array"), ("items", .null)]), ("Lid", .null),
    ("Crate", .object [("x", .list [.null, .object [("x", .boolean true)]]), ("required", .list []),
      ("properties", .object [("size", .object [("type", .text "string")]), ("lid", .null),
        ("size", .object [("description", .text "a \"size\""), ("type", .text "number")])]),
      ("type", .text "object"), ("x", .text "\n")])]

def cratesAtRoot : Value := .object [("info", .null), ("definitions", cratesObject)]

def cratesInComponents : Value :=
  .object [("definitions", .null), ("components", .object [("schemas", cratesObject)])]

theorem writes_cratesObject : WritesSlots Node.Writes crates cratesObject := by
  refine .filled "Crate" ?_ (.empty "Lid" (.filled "Crate" ?_ .nil))
  · exact .object (by decide) (.present (.text "array")) .omitted .null .omitted .omitted .omitted .omitted
  · refine .object (by decide) (.present (.text "object")) (.present ?_) .omitted .omitted .omitted
      (.present (.list [])) .omitted
    refine .filled "size" ?_ (.empty "lid" (.filled "size" ?_ .nil))
    · exact .object (by decide) (.present (.text "string")) .omitted .omitted .omitted .omitted .omitted .omitted
    · exact .object (by decide) (.present (.text "number")) .omitted .omitted .omitted .omitted .omitted
        (.present (.text "a \"size\""))

theorem Document.load_of_writes_crates :
    ∃ document : Document,
      document.definitions.members = [
        ("Crate", some
          { type := some "object", required := some [],
            properties := some [("size", some { type := some "number", description := some "a \"size\"" }),
              ("lid", none)] }),
        ("Lid", none)] ∧
      Document.load cratesAtRoot.printed = .ok document ∧ Document.load cratesInComponents.printed = .ok document := by
  obtain ⟨document, hmembers, hload⟩ := Document.load_of_writes crates
  refine ⟨document, hmembers.trans ?_, hload _ _ ?_ (Value.writtenAs_printed _) ?_,
    hload _ _ ?_ (Value.writtenAs_printed _) ?_⟩
  · simp [crates, Members.merged, Members.names, Node.merged_eq, List.eraseDups_cons, List.lookup_cons]
  · exact .atRoot (by decide) (by decide) rfl writes_cratesObject
  · decide
  · exact .inComponents (by decide) (.tail _ (.head _)) rfl (by decide) rfl writes_cratesObject
  · decide

end SchemaSdl
