import SchemaSdl.Json.Typed
import SchemaSdl.Schema.Node

/-! Documents and nodes in JSON text. -/

namespace SchemaSdl
open Json (Reader)

/-- How many lists and objects may stand inside each other. -/
def nestingLimit : Nat := 127

/-- Texts in a list, where there is room for one. -/
def textList (room : Nat) : Reader (List String) :=
  .listOf (if room = 0 then none else some .text)

/-- An object of schemas. A name that occurs again keeps its place and takes the later schema. -/
def schemasOf (node : Option (Reader SoundNode)) : Reader Definitions :=
  .object (node.map fun node definitions name => do return definitions.put name (← .optional node)) .empty

/-- The members of a node. -/
def nodeSlots (properties : Reader Definitions) (items : Reader SoundNode) (texts : Reader (List String)) :
    List (Reader.Slot Node.Parts) :=
  [{ name := "type", value := do let v ← .optional .text; return fun parts => { parts with type := v } },
   { name := "properties", value := do let v ← .optional properties; return fun parts => { parts with properties := v } },
   { name := "items", value := do let v ← .optional items; return fun parts => { parts with items := v } },
   { name := "$ref", value := do let v ← .optional .text; return fun parts => { parts with reference := v } },
   { name := "enum", value := do let v ← .optional texts; return fun parts => { parts with values := v } },
   { name := "required", value := do let v ← .optional texts; return fun parts => { parts with required := v } },
   { name := "description", value := do let v ← .optional .text; return fun parts => { parts with description := v } }]

/-- A schema node, where there is room for so many lists and objects inside each other. -/
def nodeIn : (room : Nat) → Reader SoundNode
  | 0 => do return Node.ofParts (← .record "struct SchemaNode" none {})
  | room + 1 => do
    let properties := schemasOf (match room with | 0 => none | inner + 1 => some (nodeIn inner))
    return Node.ofParts (← .record "struct SchemaNode" (some (nodeSlots properties (nodeIn room) (textList room))) {})

/-- An object of schemas, where there is room for it. -/
def schemasIn (room : Nat) : Reader Definitions :=
  schemasOf (match room with | 0 => none | inner + 1 => some (nodeIn inner))

/-- The part of a document that keeps its schemas one level further down. -/
def componentsIn (room : Nat) : Reader Definitions :=
  .record "struct RawComponents"
    (match room with
    | 0 => none
    | inner + 1 => some [{ name := "schemas", value := do let v ← schemasIn inner; return fun _ => v }])
    .empty

/-- The two places where a document may keep its schemas. -/
structure Sources where
  definitions : Option Definitions := none
  components : Option Definitions := none

/-- Definitions at the root win. -/
def Sources.document (sources : Sources) : Document := ⟨(sources.definitions <|> sources.components).getD .empty⟩

/-- A document, where there is room for so many lists and objects inside each other. -/
def documentIn (room : Nat) : Reader Document := do
  let slots : List (Reader.Slot Sources) :=
    [{ name := "definitions",
       value := do let v ← .optional (schemasIn (room - 1)); return fun s => { s with definitions := v } },
     { name := "components",
       value := do let v ← .optional (componentsIn (room - 1)); return fun s => { s with components := v } }]
  return (← .record "struct RawDocument" (if room = 0 then none else some slots) {}).document

/-- Loads a document from the front of a text in bytes. -/
def Document.loadBytes (bytes : List UInt8) : Except Json.Fault Document := (documentIn nestingLimit).run bytes

/-- Loads a document from the front of a text. -/
def Document.load (text : String) : Except Json.Fault Document := loadBytes text.toUTF8.toList

/-- Loads a node from the front of a text. -/
def Node.load (text : String) : Except Json.Fault SoundNode := (nodeIn nestingLimit).run text.toUTF8.toList

/-- Loads a node from the front of a text, or none from null. -/
def Node.load? (text : String) : Except Json.Fault (Option SoundNode) :=
  (Reader.optional (nodeIn nestingLimit)).run text.toUTF8.toList

end SchemaSdl
