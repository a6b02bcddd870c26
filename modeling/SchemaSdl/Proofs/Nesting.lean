import Mathlib
import SchemaSdl.Proofs.Testing

/-! Labels of nested types. A property that is an enumeration or a composite, or any number of arrays around one, has
a label that names the type flattened from it, in as many brackets. That type stands in the registry before the one
that holds the property, under a path of its own. -/

namespace SchemaSdl

/-! ### Arrays around a node -/

/-- The second node is left when this many arrays are taken off the first. -/
inductive Node.Wraps : Node → Nat → Node → Prop
  | core {node : Node} : Wraps node 0 node
  | array {node inner core : Node} {k : Nat} (h : node.shape = .inlineArray inner) (hinner : Wraps inner k core) :
      Wraps node (k + 1) core

/-- A label in this many brackets. -/
def Label.bracketed : Nat → Label → Label
  | 0, label => label
  | k + 1, label => .list (bracketed k label)

/-- The path that repeats the last name of a path this many times. -/
def TypePath.repeating (path : TypePath) : Nat → TypePath
  | 0 => path
  | k + 1 => (path.child path.lastName).repeating k

theorem TypePath.segments_repeating {path : TypePath} {k : Nat} :
    (path.repeating k).segments = path.segments ++ List.replicate k path.lastName := by
  induction k generalizing path with
  | zero => rw [repeating, List.replicate_zero, List.append_nil]
  | succ k ih =>
    rw [repeating, ih, lastName_child, segments_child, List.append_assoc, List.replicate_succ]
    rfl

theorem Node.Wraps.eq_zero_of_properties {node inner core : Node} {k : Nat} (h : node.Wraps k core)
    (hitems : node.items = some inner) (hproperties : inner.properties ≠ none) : k = 0 := by
  cases h with
  | core => rfl
  | array hshape =>
    obtain ⟨hinner, hnone⟩ := items_properties_of_shape_eq_inlineArray hshape
    obtain rfl := Option.some.inj (hitems.symm.trans hinner)
    exact absurd hnone hproperties

namespace Place
variable {path : TypePath} {node core : Node} {k : Nat} {required : Bool} {root place lower child : Place}

/-- The place of what is left when arrays are taken off a node. -/
theorem inline_of_wraps (h : node.Wraps k core) :
    Inline ⟨path, some node, required⟩ ⟨path.repeating k, some core, decide (k = 0) && required⟩ := by
  induction h generalizing path required with
  | core => exact .root
  | @array node inner core k hshape hinner ih =>
    have hitems : items path inner ∈ children ⟨path, some node, required⟩ := by
      rw [children_of_inlineArray hshape]
      exact List.mem_singleton_self _
    have hcore : Inline (items path inner) ⟨(path.child path.lastName).repeating k, some core, _⟩ := ih
    rw [Bool.and_false] at hcore
    rw [decide_eq_false (Nat.succ_ne_zero k), Bool.false_and]
    exact (Inline.step .root hitems).trans hcore

/-! ### The order of the tree -/

theorem tree_sublist (h : place ∈ root.tree) : place.tree.Sublist root.tree := by
  induction root using tree_induction with
  | step root ih =>
    rw [tree_eq root, List.mem_append] at h
    rcases h with h | h
    · obtain ⟨child, hchild, h⟩ := List.mem_flatMap.mp h
      have hroot : child.tree.Sublist (root.children.flatMap tree) :=
        List.sublist_flatten_of_mem (List.mem_map_of_mem hchild)
      rw [tree_eq root]
      exact (ih child hchild h).trans (hroot.trans (List.sublist_append_left _ _))
    · rw [List.mem_singleton.mp h]

/-- What lies below a place comes before it. -/
theorem pair_sublist_tree (hchild : child ∈ place.children) (h : lower ∈ child.tree) :
    [lower, place].Sublist place.tree := by
  rw [tree_eq]
  have hlower : [lower].Sublist (place.children.flatMap tree) :=
    List.singleton_sublist.mpr (List.mem_flatMap.mpr ⟨child, hchild, h⟩)
  exact hlower.append (List.Sublist.refl [place])

end Place

/-- In a list without repetition, the first of a pair in it comes before the second. -/
theorem exists_lt_of_pair_sublist {α : Type} {l : List α} {a b : α} {i : Nat} (h : [a, b].Sublist l) (hnodup : l.Nodup)
    (hi : l[i]? = some b) : ∃ j, j < i ∧ l[j]? = some a := by
  obtain ⟨f, hf⟩ := List.sublist_iff_exists_orderEmbedding_getElem?_eq.mp h
  have ha : l[f 0]? = some a := (hf 0).symm
  have hb : l[f 1]? = some b := (hf 1).symm
  have hlength : i < l.length := (List.getElem?_eq_some_iff.mp hi).1
  obtain rfl : i = f 1 := (List.getElem?_inj hlength hnodup).mp (hi.trans hb.symm)
  exact ⟨f 0, f.lt_iff_lt.mpr Nat.zero_lt_one, ha⟩

/-! ### Fields -/

namespace Converter
variable {converter : Converter} {path : TypePath} {node core : Node} {k : Nat} {required : Bool} {inner : Field}
  {properties : Members (Option Node)} {names : List String} {p : String × Option Node}

/-- The field of a node with arrays around it has the label of the node in as many brackets. -/
theorem field_of_wraps (h : node.Wraps k core)
    (hfield : converter.field ⟨path.repeating k, some core, decide (k = 0) && required⟩ = .ok inner) :
    ∃ field, converter.field ⟨path, some node, required⟩ = .ok field ∧ field.label = .bracketed k inner.label ∧
      field.required = (decide (k = 0) && inner.required) := by
  induction h generalizing path required with
  | core => exact ⟨inner, hfield, rfl, (Bool.true_and _).symm⟩
  | @array node items core k hshape hinner ih =>
    have hcore : converter.field ⟨(path.child path.lastName).repeating k, some core, decide (k = 0) && false⟩ =
        .ok inner := by
      rw [Bool.and_false]
      rwa [decide_eq_false (Nat.succ_ne_zero k), Bool.false_and] at hfield
    obtain ⟨field, hitems, hlabel, -⟩ := ih hcore
    refine ⟨⟨.list field.label, node.description, false⟩, ?_, by rw [hlabel]; rfl, ?_⟩
    · rw [field_of_some rfl, hshape]
      exact congrArg (Except.map _) hitems
    · rw [decide_eq_false (Nat.succ_ne_zero k), Bool.false_and]

/-- The field of an enumeration or a composite names it. -/
theorem field_of_declaresType (converter : Converter) (path : TypePath) (required : Bool)
    (h : node.shape.declaresType = true) :
    converter.field ⟨path, some node, required⟩ = .ok ⟨.named path.joined, node.description, required⟩ := by
  rw [field_of_some rfl]
  cases hshape : node.shape with
  | enum values => rfl
  | composite properties names => rfl
  | _ => rw [hshape] at h; cases h

theorem mem_fieldsOf {place : Place} {places : List Place} {field : Field} (hplace : place ∈ places)
    (h : converter.field place = .ok field) : (place.path.lastName, field) ∈ converter.fieldsOf places := by
  refine List.mem_filterMap.mpr ⟨place, hplace, ?_⟩
  rw [h]
  rfl

theorem names_fieldsOf_sublist {places : List Place} :
    (converter.fieldsOf places).names.Sublist (places.map fun place => place.path.lastName) := by
  induction places with
  | nil => exact List.Sublist.slnil
  | cons place rest ih =>
    rw [fieldsOf, List.filterMap_cons, List.map_cons]
    cases converter.field place with
    | error fault => exact ih.cons _
    | ok field => exact ih.cons_cons _

/-- The fields of a composite have the field of each of its properties under its name. -/
theorem get?_filled (hdistinct : properties.NamesDistinct) (hp : p ∈ properties) {field : Field}
    (h : converter.field (.property path names p) = .ok field) :
    (filled (converter.fieldsOf (properties.map (Place.property path names)))).get? p.1 = some field := by
  have hmem : (p.1, field) ∈ converter.fieldsOf (properties.map (Place.property path names)) := by
    have hfield := mem_fieldsOf (List.mem_map_of_mem hp) h
    rwa [show (Place.property path names p).path.lastName = p.1 from TypePath.lastName_child _ _] at hfield
  rw [filled, if_neg (by simpa using List.ne_nil_of_mem hmem)]
  refine Members.get?_of_mem ?_ hmem
  refine names_fieldsOf_sublist.nodup ?_
  rw [List.map_map]
  have hnames : (fun place : Place => place.path.lastName) ∘ Place.property path names = Prod.fst :=
    funext fun p => TypePath.lastName_child _ _
  rw [hnames]
  exact hdistinct

end Converter

/-! ### Types and their fields in a registry -/

namespace Pass
variable {pass : Pass} {selector : Selector} {registry : Registry} {outer : Entry} {interface : Bool}
  {fields : Members Field} {node inner core : Node} {required : Bool} {properties : Members (Option Node)}
  {names : List String} {x : String} {k : Nat}

/-- A registered composite is the one that stands at its path. -/
theorem exists_composite (h : pass.registry selector = .ok registry) (houter : outer ∈ registry.entries)
    (hbody : outer.body = .composite interface fields) : ∃ node properties names,
      pass.Reaches selector ⟨outer.path, some node, outer.required⟩ ∧ node.shape = .composite properties names := by
  obtain ⟨⟨path, slot, required⟩, hplace, htype⟩ := exists_place h houter
  obtain ⟨node, rfl, hnode⟩ := Option.bind_eq_some_iff.mp htype
  split at hnode
  · cases hnode
    cases hbody
  · cases hnode
    exact ⟨node, _, _, hplace, ‹_›⟩
  · cases hnode

theorem typeAt?_of_path (h : pass.registry selector = .ok registry) (houter : outer ∈ registry.entries) {place : Place}
    (hplace : pass.Reaches selector place) (hpath : place.path = outer.path) :
    pass.converter.typeAt? place = some outer := by
  obtain ⟨found, hfound, htype⟩ := exists_place h houter
  rwa [hplace.eq_of_path hfound (hpath.trans (Converter.path_of_typeAt? htype))]

/-- The type at the place of a composite has that composite's fields. -/
theorem fields_of_registry (h : pass.registry selector = .ok registry) (houter : outer ∈ registry.entries)
    (hbody : outer.body = .composite interface fields)
    (hplace : pass.Reaches selector ⟨outer.path, some node, required⟩) (hshape : node.shape = .composite properties names) :
    fields = Converter.filled (pass.converter.fieldsOf (properties.map (Place.property outer.path names))) := by
  have htype := typeAt?_of_path h houter hplace rfl
  simp only [Converter.typeAt?, Option.bind_some, hshape, Place.children_of_composite hshape, Option.some.injEq] at htype
  rw [← htype] at hbody
  exact (Body.composite.inj hbody).2.symm

theorem get?_of_registry (h : pass.registry selector = .ok registry) (houter : outer ∈ registry.entries)
    (hbody : outer.body = .composite interface fields)
    (hplace : pass.Reaches selector ⟨outer.path, some node, required⟩) (hshape : node.shape = .composite properties names)
    (hx : (x, some inner) ∈ properties) {field : Field}
    (hfield : pass.converter.field ⟨outer.path.child x, some inner, names.contains x⟩ = .ok field) :
    fields.get? x = some field := by
  rw [fields_of_registry h houter hbody hplace hshape]
  exact Converter.get?_filled ((hplace.sound node rfl).of_composite hshape).1 hx hfield

/-- What is left when arrays are taken off a property lies below the composite that holds the property. -/
theorem lower_of_wraps (hshape : node.shape = .composite properties names) (hx : (x, some inner) ∈ properties)
    (hwraps : inner.Wraps k core) (path : TypePath) : ∃ child ∈ Place.children ⟨path, some node, required⟩,
      ⟨(path.child x).repeating k, some core, decide (k = 0) && names.contains x⟩ ∈ child.tree := by
  refine ⟨.property path names (x, some inner), ?_, Place.mem_tree_iff.mpr (Place.inline_of_wraps hwraps)⟩
  rw [Place.children_of_composite hshape]
  exact List.mem_map_of_mem hx

theorem Reaches.tree_sublist {place : Place} (h : pass.Reaches selector place) :
    place.tree.Sublist (pass.places (some selector.chooses) none) := by
  obtain ⟨root, hroot, hinline⟩ := reaches_iff.mp h
  exact (Place.tree_sublist (Place.mem_tree_iff.mpr hinline)).trans
    (List.sublist_flatten_of_mem (List.mem_map_of_mem hroot))

/-- The type at a place below another is registered before the type there. -/
theorem exists_lt_of_lower (h : pass.registry selector = .ok registry) {place child lower : Place} {i : Nat}
    {entry : Entry} (hplace : pass.Reaches selector place) (hchild : child ∈ place.children) (hlower : lower ∈ child.tree)
    (hentry : pass.converter.typeAt? lower = some entry) (houter : pass.converter.typeAt? place = some outer)
    (hi : registry.entries[i]? = some outer) : ∃ j, j < i ∧ registry.entries[j]? = some entry := by
  have hplaces : [lower, place].Sublist (pass.places (some selector.chooses) none) :=
    (Place.pair_sublist_tree hchild hlower).trans hplace.tree_sublist
  have hentries : [entry, outer].Sublist registry.entries := by
    rw [entries_eq h]
    have htypes := hplaces.filterMap pass.converter.typeAt?
    rwa [List.filterMap_cons_some hentry, List.filterMap_cons_some houter, List.filterMap_nil] at htypes
  exact exists_lt_of_pair_sublist hentries (nodup_keys h).of_map hi

/-- In the registry of a pass, each composite is one that the pass comes to at its path. For every property of it that
is an enumeration or a composite inside some number of arrays, a type stands before it in the registry: the one that
is declared by what is inside the arrays, at the path of the composite, the property's name, and that name again for
each array. The field of the property names that type in as many brackets, and is required exactly if the type is,
which inside arrays it never is. Items that have properties are not inside an array but make the array a composite. -/
theorem nested_label (pass : Pass) (selector : Selector) (registry : Registry)
    (h : pass.registry selector = .ok registry) (i : Nat) (outer : Entry) (interface : Bool) (fields : Members Field)
    (houter : registry.entries[i]? = some outer) (hbody : outer.body = .composite interface fields) :
    (∃ node properties names, pass.Reaches selector ⟨outer.path, some node, outer.required⟩ ∧
      node.shape = .composite properties names) ∧
    ∀ node required properties names, pass.Reaches selector ⟨outer.path, some node, required⟩ →
      node.shape = .composite properties names →
      ∀ x inner k core, (x, some inner) ∈ properties → inner.Wraps k core → core.shape.declaresType = true →
        (∃ j entry field, j < i ∧ registry.entries[j]? = some entry ∧ registry.get? entry.key = some entry ∧
          entry.path.segments = outer.path.segments ++ [x] ++ List.replicate k x ∧
          pass.converter.Declares ⟨entry.path, some core, entry.required⟩ entry ∧
          fields.get? x = some field ∧ field.label = .bracketed k (.named entry.key) ∧
          field.required = entry.required ∧ entry.required = (decide (k = 0) && names.contains x)) ∧
        ∀ items, inner.items = some items → items.properties ≠ none → k = 0 := by
  have hmem := List.mem_of_getElem? houter
  refine ⟨exists_composite h hmem hbody, ?_⟩
  intro node required properties names hplace hshape x inner k core hx hwraps hdeclares
  refine ⟨?_, fun items hitems hproperties => hwraps.eq_zero_of_properties hitems hproperties⟩
  -- The place inside the arrays comes before that of the composite, and so do their types.
  obtain ⟨child, hchild, hlower⟩ := lower_of_wraps hshape hx hwraps outer.path
  have hreached := hplace.inline ((Place.Inline.step .root hchild).trans (Place.mem_tree_iff.mp hlower))
  obtain ⟨entry, hentry, htype, hdeclared⟩ := exists_entry h hreached hdeclares
  obtain ⟨hpath, hrequired⟩ := hdeclared.path_required
  obtain ⟨j, hji, hj⟩ :=
    exists_lt_of_lower h hplace hchild hlower htype (typeAt?_of_path h hmem hplace rfl) houter
  obtain ⟨field, hfield, hlabel, hfieldRequired⟩ := Converter.field_of_wraps hwraps
    (Converter.field_of_declaresType pass.converter _ _ hdeclares)
  refine ⟨j, entry, field, hji, hj, get?_key h hentry, ?_, ?_, get?_of_registry h hmem hbody hplace hshape hx hfield,
    ?_, ?_, hrequired⟩
  · rw [hpath, TypePath.segments_repeating, TypePath.lastName_child, TypePath.segments_child]
  · rwa [hpath, hrequired]
  · rw [hlabel, Entry.key, hpath]
  · rw [hfieldRequired, hrequired, ← Bool.and_assoc, Bool.and_self]

/-! ### A grid of values -/

def cell : SoundNode := Node.ofParts { values := some ["on", "off"] }

def row : SoundNode := Node.ofParts { type := some "array", items := some cell }

def grid : SoundNode := Node.ofParts { type := some "array", items := some row }

/-- A composite whose only property is an array of arrays of values. -/
def board : SoundNode :=
  Node.ofParts
    { type := some "object", properties := some (Definitions.empty.put "grid" (some grid)), required := some ["grid"] }

def boards : Pass where
  document := ⟨Definitions.empty |>.put "Gone" none |>.put "Board" (some board)⟩
  root := "Tile"
  template := none
  root_ne := by decide

def boardsSelector : Selector := Selector.ofPredicates none (some (· = "Gone"))

def boardFields : Members Field := [("grid", ⟨.list (.list (.named "Board_grid_grid_grid")), none, false⟩)]

def boardType : Entry := ⟨⟨"Board", []⟩, none, false, .composite false boardFields⟩

def boardTypes : Registry := ⟨[⟨⟨"Board", ["grid", "grid", "grid"]⟩, none, false, .enum ["on", "off"]⟩, boardType]⟩

theorem registry_boards : boards.registry boardsSelector = .ok boardTypes := by cbv

theorem wraps_grid : grid.val.Wraps 2 cell.val := .array rfl (.array rfl .core)

theorem reaches_board : boards.Reaches boardsSelector ⟨⟨"Board", []⟩, some board.val, false⟩ :=
  ⟨("Board", some board.val), by simp [boards, Definitions.put, Definitions.empty, Members.put], rfl, .root⟩

/-- The label of the grid has two brackets around the name of the type of its cells. -/
theorem nested_label_grid :
    boards.registry boardsSelector = .ok boardTypes ∧ boardTypes.entries[1]? = some boardType ∧
    boardType.body = .composite false boardFields ∧ grid.val.Wraps 2 cell.val ∧
    boards.Reaches boardsSelector ⟨⟨"Board", []⟩, some board.val, false⟩ ∧
    ∃ (j : Nat) (entry : Entry) (field : Field), j < 1 ∧ boardTypes.entries[j]? = some entry ∧
      boardTypes.get? entry.key = some entry ∧ entry.path.segments = ["Board", "grid", "grid", "grid"] ∧
      boardFields.get? "grid" = some field ∧ field.label = .list (.list (.named entry.key)) ∧ field.required = false := by
  obtain ⟨-, hnested⟩ := nested_label boards boardsSelector boardTypes registry_boards 1 boardType _ _ rfl rfl
  obtain ⟨⟨j, entry, field, hj, hentry, hget, hpath, -, hfield, hlabel, hrequired, hnever⟩, -⟩ :=
    hnested board.val false _ _ reaches_board rfl "grid" grid.val 2 cell.val (List.mem_singleton_self _) wraps_grid rfl
  exact ⟨registry_boards, rfl, rfl, wraps_grid, reaches_board, j, entry, field, hj, hentry, hget, hpath, hfield, hlabel,
    hrequired.trans hnever⟩

end Pass
end SchemaSdl
