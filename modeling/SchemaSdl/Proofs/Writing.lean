import SchemaSdl.Proofs.Json.Text
import SchemaSdl.Proofs.Rebuilding
import SchemaSdl.Schema.Loading

/-! Schemas as JSON values. An optional part is left out or null when it is absent, the members of a node or a document
stand in any order among others, and the names of definitions and properties may come up again. -/

namespace SchemaSdl
open Json (Value)

/-! ### Parts of a schema -/

/-- A string. -/
inductive WritesText : String → Value → Prop
  | text (s : String) : WritesText s (.text s)

/-- A list of strings. -/
inductive WritesTexts : List String → Value → Prop
  | list (texts : List String) : WritesTexts texts (.list (texts.map .text))

section
variable {α : Type}

/-- A part that may be absent, and the member of an object that tells of it. -/
inductive WritesPart (R : α → Value → Prop) : Option α → Option Value → Prop
  | omitted : WritesPart R none none
  | null : WritesPart R none (some .null)
  | present {a : α} {value : Value} (h : R a value) : WritesPart R (some a) (some value)

/-- An object that has the slots as its members, with null in those that are empty. -/
inductive WritesSlots (R : α → Value → Prop) : List (String × Option α) → Value → Prop
  | nil : WritesSlots R [] (.object [])
  | empty {slots : List (String × Option α)} {members : List (String × Value)} (name : String)
      (hrest : WritesSlots R slots (.object members)) :
      WritesSlots R ((name, none) :: slots) (.object ((name, .null) :: members))
  | filled {slots : List (String × Option α)} {members : List (String × Value)} {a : α} {value : Value} (name : String)
      (h : R a value) (hrest : WritesSlots R slots (.object members)) :
      WritesSlots R ((name, some a) :: slots) (.object ((name, value) :: members))

end

/-! ### Nodes and documents -/

/-- The names under which an object has the parts of a node. -/
def Node.keys : List String := ["type", "properties", "items", "$ref", "enum", "required", "description"]

/-- A node as an object: each of its parts is the member under its key, which comes up at most once. -/
inductive Node.Writes : Node → Value → Prop
  | object {node : Node} {members : List (String × Value)}
      (once : ∀ key ∈ Node.keys, (members.map Prod.fst).count key ≤ 1)
      (type : WritesPart WritesText node.type (members.lookup "type"))
      (properties : WritesPart (WritesSlots Node.Writes) node.properties (members.lookup "properties"))
      (items : WritesPart Node.Writes node.items (members.lookup "items"))
      (reference : WritesPart WritesText node.reference (members.lookup "$ref"))
      (values : WritesPart WritesTexts node.values (members.lookup "enum"))
      (required : WritesPart WritesTexts node.required (members.lookup "required"))
      (description : WritesPart WritesText node.description (members.lookup "description")) :
      Node.Writes node (.object members)

/-- A document with these schemas, in either of the two places for them. -/
inductive Document.Writes (schemas : List (String × Option Node)) : Value → Prop
  | atRoot {members : List (String × Value)} {value : Value}
      (once : (members.map Prod.fst).count "definitions" ≤ 1) (alone : "components" ∉ members.map Prod.fst)
      (definitions : members.lookup "definitions" = some value) (h : WritesSlots Node.Writes schemas value) :
      Document.Writes schemas (.object members)
  | inComponents {members parts : List (String × Value)} {value : Value}
      (once : ∀ key ∈ ["definitions", "components"], (members.map Prod.fst).count key ≤ 1)
      (definitions : members.lookup "definitions" ∈ [none, some .null])
      (components : members.lookup "components" = some (.object parts))
      (once' : (parts.map Prod.fst).count "schemas" ≤ 1) (definitions' : parts.lookup "schemas" = some value)
      (h : WritesSlots Node.Writes schemas value) : Document.Writes schemas (.object members)

/-! ### Every document can be written -/

section Exists
variable {α : Type} {R : α → Value → Prop}

theorem exists_writesPart {a : Option α} (h : ∀ b, a = some b → ∃ value, R b value) :
    ∃ value, WritesPart R a (some value) := by
  cases a with
  | none => exact ⟨.null, .null⟩
  | some b =>
    obtain ⟨value, hvalue⟩ := h b rfl
    exact ⟨value, .present hvalue⟩

theorem exists_writesSlots {slots : List (String × Option α)}
    (h : ∀ name a, (name, some a) ∈ slots → ∃ value, R a value) : ∃ value, WritesSlots R slots value := by
  suffices hmembers : ∃ members, WritesSlots R slots (.object members) from hmembers.imp' Value.object fun _ h => h
  induction slots with
  | nil => exact ⟨[], .nil⟩
  | cons slot slots ih =>
    obtain ⟨name, a⟩ := slot
    obtain ⟨members, hmembers⟩ := ih fun name a hmem => h name a (List.mem_cons_of_mem _ hmem)
    cases a with
    | none => exact ⟨_, .empty name hmembers⟩
    | some a =>
      obtain ⟨value, hvalue⟩ := h name a List.mem_cons_self
      exact ⟨_, .filled name hvalue hmembers⟩

end Exists

theorem Node.exists_writes (node : Node) : ∃ value, node.Writes value := by
  induction node using Node.induction with
  | step node ihslots ihitems =>
    obtain ⟨type, htype⟩ := exists_writesPart fun s _ => ⟨_, WritesText.text s⟩
    obtain ⟨properties, hproperties⟩ := exists_writesPart fun slots hslots => exists_writesSlots (ihslots slots hslots)
    obtain ⟨items, hitems⟩ := exists_writesPart ihitems
    obtain ⟨reference, hreference⟩ := exists_writesPart fun s _ => ⟨_, WritesText.text s⟩
    obtain ⟨values, hvalues⟩ := exists_writesPart fun texts _ => ⟨_, WritesTexts.list texts⟩
    obtain ⟨required, hrequired⟩ := exists_writesPart fun texts _ => ⟨_, WritesTexts.list texts⟩
    obtain ⟨description, hdescription⟩ := exists_writesPart fun s _ => ⟨_, WritesText.text s⟩
    have once : ∀ key ∈ keys, keys.count key ≤ 1 := by decide
    exact ⟨.object [("type", type), ("properties", properties), ("items", items), ("$ref", reference),
      ("enum", values), ("required", required), ("description", description)],
      .object once htype hproperties hitems hreference hvalues hrequired hdescription⟩

theorem Document.exists_writes (schemas : List (String × Option Node)) : ∃ value, Document.Writes schemas value := by
  have hnodes : ∀ name node, (name, some node) ∈ schemas → ∃ value, Node.Writes node value :=
    fun _ node _ => node.exists_writes
  obtain ⟨value, hvalue⟩ := exists_writesSlots hnodes
  exact ⟨.object [("definitions", value)], .atRoot (by simp) (by simp) rfl hvalue⟩

end SchemaSdl
