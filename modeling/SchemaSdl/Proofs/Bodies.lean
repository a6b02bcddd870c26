import Mathlib
import SchemaSdl.Proofs.Requiring
import SchemaSdl.Proofs.Testing

/-! What the bodies of types hold. A composite has a field, and no two of its fields share a name. An enumeration has a
value for each value of its list: none is lost, and two of them are the same exactly if two values of the list differ
in blanks and hyphens only. -/

namespace SchemaSdl

/-! ### Members -/

namespace Body
variable {values : List String}

/-- What a body may hold only once: values, or the names of fields. -/
def members : Body → List String
  | .enum values => values
  | .composite _ fields => fields.names

theorem length_lines (body : Body) : body.lines.length = body.members.length := by
  cases body with
  | enum values => rw [lines, List.length_map, List.length_mergeSort, members]
  | composite interface fields => rw [lines, List.length_map, members, Members.names, List.length_map]

theorem nodup_lines_enum : (enum values).lines.Nodup ↔ values.Nodup := by
  have hindent : Function.Injective fun value : String => "  " ++ value := fun v w h =>
    String.toList_injective (by simpa using congrArg String.toList h)
  rw [lines, List.nodup_map_iff hindent, (List.mergeSort_perm values _).nodup_iff]

end Body

/-! ### Lists of values -/

namespace Node
variable {node inner : Node} {properties : Members (Option Node)} {names values : List String}

/-- No value stands twice in the list of a node, or in that of any node inside it. -/
inductive ValuesDistinct : Node → Prop
  | intro {node : Node} (own : ∀ values, node.values = some values → values.Nodup)
      (slots : ∀ properties, node.properties = some properties →
        ∀ name inner, (name, some inner) ∈ properties → ValuesDistinct inner)
      (items : ∀ inner, node.items = some inner → ValuesDistinct inner) : ValuesDistinct node

theorem values_of_shape_eq_enum (h : node.shape = .enum values) : node.values = some values := by
  unfold shape at h
  split at h
  · cases h
    assumption
  · cases h
  · cases h
  · cases h
  · rw [structuralShape] at h
    unfold arrayShape at h
    repeat' split at h
    all_goals cases h

theorem ValuesDistinct.of_composite (hd : node.ValuesDistinct) (h : node.shape = .composite properties names) :
    ∀ name inner, (name, some inner) ∈ properties → inner.ValuesDistinct := by
  obtain ⟨-, slots, items⟩ := hd
  rcases properties_of_shape_eq_composite h with hp | ⟨inner, hi, hp⟩
  · exact slots _ hp
  · obtain ⟨-, slots, -⟩ := items _ hi
    exact slots _ hp

theorem ValuesDistinct.of_inlineArray (hd : node.ValuesDistinct) (h : node.shape = .inlineArray inner) :
    inner.ValuesDistinct := by
  obtain ⟨-, -, items⟩ := hd
  exact items _ (items_of_shape_eq_inlineArray h)

end Node

/-- No list of values in a document has a value twice. -/
def Document.ValuesDistinct (document : Document) : Prop :=
  ∀ name node, (name, some node) ∈ document.definitions.members → node.ValuesDistinct

theorem Place.Inline.valuesDistinct {root place : Place} (h : root.Inline place)
    (hroot : ∀ node, root.slot = some node → node.ValuesDistinct) :
    ∀ node, place.slot = some node → node.ValuesDistinct := by
  induction h with
  | root => exact hroot
  | @step upper lower hupper hlower ih =>
    intro inner hinner
    rcases mem_children hlower with ⟨node, properties, names, ⟨name, slot⟩, hslot, hshape, hp, rfl⟩ |
        ⟨node, items, hslot, hshape, rfl⟩
    · obtain rfl : slot = some inner := hinner
      exact (ih node hslot).of_composite hshape name inner hp
    · obtain rfl : items = inner := Option.some.inj hinner
      exact (ih node hslot).of_inlineArray hshape

/-! ### Fields -/

theorem Node.Fielded.ne_nil {node : Node} {properties : Members (Option Node)} {fields : Members Field}
    (h : node.Fielded properties fields) : fields ≠ [] := by
  rintro rfl
  by_cases hempty : properties = []
  · cases h.placeholder hempty
  · have hnames : properties.names = [] := (h.names hempty).symm
    exact hempty (List.map_eq_nil_iff.mp hnames)

theorem Node.Fielded.namesDistinct {node : Node} {properties : Members (Option Node)} {fields : Members Field}
    (h : node.Fielded properties fields) (hdistinct : properties.NamesDistinct) : fields.NamesDistinct := by
  by_cases hempty : properties = []
  · rw [h.placeholder hempty]
    exact List.nodup_singleton _
  · rw [Members.NamesDistinct, h.names hempty]
    exact hdistinct

namespace Pass
variable {pass : Pass} {selector : Selector} {registry : Registry} {entry : Entry} {place : Place}

theorem Reaches.valuesDistinct (h : pass.Reaches selector place) (hdistinct : pass.document.ValuesDistinct) :
    ∀ node, place.slot = some node → node.ValuesDistinct := by
  obtain ⟨⟨name, slot⟩, hmember, -, hinline⟩ := h
  refine hinline.valuesDistinct ?_
  rintro node ⟨⟩
  exact hdistinct name node hmember

theorem exists_declares (h : pass.registry selector = .ok registry) (hentry : entry ∈ registry.entries) :
    ∃ place, pass.Reaches selector place ∧ pass.converter.Declares place entry := by
  obtain ⟨place, hplace, htype⟩ := exists_place h hentry
  refine ⟨place, hplace, Converter.declares_of_typeAt? htype fun lower hlower => ?_⟩
  exact exists_field h (hplace.inline (.step .root hlower))

/-- Take a document that lists no value twice in one list, and a pass over it that succeeds. Its types are written with
one item for each member. A composite has a field, and no two of its fields share a name. An enumeration has a value if
its list has one, and no value twice, nor a line, exactly if no two values of the list become the same without their
blanks and hyphens. -/
theorem members_of_registry (pass : Pass) (selector : Selector) (registry : Registry)
    (hdistinct : pass.document.ValuesDistinct) (h : pass.registry selector = .ok registry) (entry : Entry)
    (hentry : entry ∈ registry.entries) :
    entry.body.lines.length = entry.body.members.length ∧
    (∀ interface fields, entry.body = .composite interface fields →
      entry.body.members ≠ [] ∧ entry.body.members.Nodup) ∧
    ∀ made, entry.body = .enum made → ∃ node values required,
      pass.Reaches selector ⟨entry.path, some node, required⟩ ∧ node.shape = .enum values ∧
      (values ≠ [] → entry.body.members ≠ []) ∧
      (entry.body.members.Nodup ↔ ∀ v ∈ values, ∀ w ∈ values, sanitized v = sanitized w → v = w) ∧
      (entry.body.lines.Nodup ↔ entry.body.members.Nodup) := by
  obtain ⟨place, hplace, hdeclares⟩ := exists_declares h hentry
  refine ⟨entry.body.length_lines, fun interface fields hbody => ?_, fun made hbody => ?_⟩
  · cases hdeclares with
    | enum hshape => cases hbody
    | @composite path required node properties names made hshape hfields =>
      obtain ⟨_, fields, hmade, hfielded⟩ := Converter.fielded_of_declares (.composite hshape hfields) hshape
      obtain ⟨hnames, -⟩ := (hplace.sound node rfl).of_composite hshape
      rw [hmade]
      exact ⟨mt List.map_eq_nil_iff.mp hfielded.ne_nil, hfielded.namesDistinct hnames⟩
  · cases hdeclares with
    | composite hshape hfields => cases hbody
    | @enum path required node values hshape =>
      obtain ⟨hown, -, -⟩ := hplace.valuesDistinct hdistinct node rfl
      refine ⟨node, values, required, hplace, hshape, ?_, ?_, Body.nodup_lines_enum⟩
      · exact mt List.map_eq_nil_iff.mp
      · exact List.nodup_map_iff_inj_on (hown values (Node.values_of_shape_eq_enum hshape))

/-! ### Values that differ in blanks and hyphens, and no value -/

def paint : SoundNode := Node.ofParts
  { type := some "object",
    properties := some (Definitions.empty.put "hue" (some (Node.ofParts { reference := some "#/definitions/Hue" }))) }

def paints : Pass where
  document := ⟨Definitions.empty
    |>.put "Hue" (some (Node.ofParts { values := some ["dark red", "dark-red"] }))
    |>.put "Void" (some (Node.ofParts { values := some [] }))
    |>.put "Paint" (some paint)⟩
  root := "Wall"
  template := none
  root_ne := by decide

def hueType : Entry := ⟨⟨"Hue", []⟩, none, false, .enum ["darkred", "darkred"]⟩

def voidType : Entry := ⟨⟨"Void", []⟩, none, false, .enum []⟩

def paintType : Entry := ⟨⟨"Paint", []⟩, none, false, .composite false [("hue", ⟨.named "Hue", none, false⟩)]⟩

theorem registry_paints : paints.registry {} = .ok ⟨[hueType, voidType, paintType]⟩ := by cbv

theorem valuesDistinct_paints : paints.document.ValuesDistinct := by
  have hleaf (parts : Node.Parts) (hproperties : parts.properties = none) (hitems : parts.items = none)
      (hown : ∀ values, parts.values = some values → values.Nodup) : (Node.ofParts parts).val.ValuesDistinct :=
    .intro hown (by simp [Node.ofParts, hproperties]) (by simp [Node.ofParts, hitems])
  intro name node hmember
  simp only [paints, Definitions.put, Definitions.empty, Members.put, String.reduceEq, ↓reduceIte, Option.map_some,
    List.mem_cons, Prod.mk.injEq, Option.some.injEq, List.not_mem_nil, or_false] at hmember
  rcases hmember with ⟨-, rfl⟩ | ⟨-, rfl⟩ | ⟨-, rfl⟩
  · exact hleaf _ rfl rfl (by simp)
  · exact hleaf _ rfl rfl (by simp)
  · refine .intro (by simp [paint, Node.ofParts]) (fun properties hproperties name inner hinner => ?_)
      (by simp [paint, Node.ofParts])
    obtain rfl := Option.some.inj hproperties
    obtain ⟨-, hinner⟩ := Prod.mk.inj (List.mem_singleton.mp hinner)
    obtain rfl := Option.some.inj hinner
    exact hleaf _ rfl rfl (by simp)

/-- A pass may succeed on a document that lists no value twice, and yet an enumeration has one value twice, and another
has none. -/
theorem exists_repeated_and_no_member :
    paints.document.ValuesDistinct ∧ paints.registry {} = .ok ⟨[hueType, voidType, paintType]⟩ ∧
    paints.render {} = .ok
      "enum Hue \x7b\n  darkred\n  darkred\n\x7d\nenum Void \x7b\n\n\x7d\ntype Paint \x7b\n  hue: Hue\n\x7d" ∧
    ¬hueType.body.members.Nodup ∧ ¬hueType.body.lines.Nodup ∧ voidType.body.members = [] ∧
    ¬∀ entry ∈ [hueType, voidType, paintType], entry.body.members ≠ [] ∧ entry.body.members.Nodup := by
  have hrepeated : ¬hueType.body.members.Nodup := by decide
  refine ⟨valuesDistinct_paints, registry_paints, ?_, hrepeated, mt Body.nodup_lines_enum.mp hrepeated, rfl, ?_⟩
  · rw [render, registry_paints]
    cbv
  · intro hall
    exact hrepeated (hall hueType List.mem_cons_self).2

/-- Of these types the composite has one field, and the two equal values come from two that differ in what is dropped. -/
theorem members_of_registry_paints :
    paints.document.ValuesDistinct ∧ paints.registry {} = .ok ⟨[hueType, voidType, paintType]⟩ ∧
    (paintType.body.lines.length = 1 ∧ paintType.body.members ≠ [] ∧ paintType.body.members.Nodup) ∧
    ∃ node values required, paints.Reaches {} ⟨⟨"Hue", []⟩, some node, required⟩ ∧ node.shape = .enum values ∧
      (values ≠ [] → hueType.body.members ≠ []) ∧
      ¬∀ v ∈ values, ∀ w ∈ values, sanitized v = sanitized w → v = w := by
  obtain ⟨hlength, hcomposite, -⟩ := members_of_registry paints {} _ valuesDistinct_paints registry_paints paintType
    (by simp)
  obtain ⟨-, -, henum⟩ := members_of_registry paints {} _ valuesDistinct_paints registry_paints hueType (by simp)
  obtain ⟨node, values, required, hreaches, hshape, hsome, hiff, -⟩ := henum _ rfl
  exact ⟨valuesDistinct_paints, registry_paints, ⟨hlength, hcomposite _ _ rfl⟩, node, values, required, hreaches, hshape,
    hsome, mt hiff.mpr (by decide)⟩

end Pass
end SchemaSdl
