import SchemaSdl.Proofs.Chains
import SchemaSdl.Proofs.Declaration
import SchemaSdl.Proofs.Rebuilding

/-! The fields of composites. A composite has one field for each of its properties, in order, and a field is required
exactly if the composite requires its name and it is no array. What is required counts as a set: the order of the names
in a list and their repetition do not matter. -/

namespace SchemaSdl

/-! ### Required names -/

namespace Node
variable {node : Node} {properties : Members (Option Node)} {names : List String}

/-- The names that a composite requires: its own list if it has one, even an empty one, and else, if it is an array,
that of its items. -/
def requires (node : Node) : List String :=
  match node.required with
  | some names => names
  | none => if node.type = some "array" then (node.items.bind required).getD [] else []

theorem requires_of_object (h : node.type = some "object") : node.requires = node.required.getD [] := by
  rw [requires, h]
  cases node.required <;> rfl

theorem requires_of_array {items : Node} (h : node.type = some "array") (hitems : node.items = some items) :
    node.requires = (node.required <|> items.required).getD [] := by
  rw [requires, h, hitems]
  cases node.required <;> rfl

theorem names_of_shape_eq_composite (h : node.shape = .composite properties names) : names = node.requires := by
  rw [structuralShape_of_shape (by simp [h]) (by simp [h]) (by simp [h])] at h
  simp only [structuralShape, arrayShape] at h
  split at h
  · rename_i hobject
    split at h
    · cases h
      exact (requires_of_object hobject).symm
    · cases h
  · split at h
    · rename_i harray
      split at h
      · rename_i hitems
        split at h
        · cases h
          exact (requires_of_array harray hitems).symm
        · split at h <;> cases h
      · cases h
    · cases h

/-- Fields of the type of a composite that has these properties. There is one for each property, in order, and it is
required exactly if the composite requires its name and the property is no array, whatever aliases a reference leads
through. Without properties there is the placeholder only. -/
structure Fielded (node : Node) (properties : Members (Option Node)) (fields : Members Field) : Prop where
  placeholder : properties = [] → fields = [("_", ⟨.scalar .string, none, false⟩)]
  names : properties ≠ [] → fields.names = properties.names
  required : properties ≠ [] → List.Forall₂ (fun (property : String × Option Node) (named : String × Field) =>
    named.1 = property.1 ∧ ∃ inner, property.2 = some inner ∧
      (named.2.required = true ↔ property.1 ∈ node.requires ∧ ∀ items, inner.shape ≠ .inlineArray items))
    properties fields

end Node

theorem Document.required_of_settle {document : Document} {field target : String} {required list : Bool}
    {passed : List String} {description : Option String} {result : Field}
    (h : document.settle field required passed description target list = .ok result) : result.required = required := by
  fun_induction settle document field required passed description target list with
  | case1 | case2 | case5 => cases h
  | case3 => cases h; rfl
  | case4 passed description target list node hnode halias hpassed next list' hs _ ih => exact ih h
  | case6 => cases h; rfl

theorem names_of_forall₂ {α β : Type} {members : Members α} {others : Members β}
    (h : List.Forall₂ (fun member other => other.1 = member.1) members others) : others.names = members.names := by
  induction h with
  | nil => rfl
  | cons hname _ ih => rw [Members.names_cons, Members.names_cons, hname, ih]

namespace Converter
variable {converter : Converter} {place : Place} {places later : List Place} {node : Node} {field : Field} {entry : Entry}

/-- A field is required exactly if its holder requires it and it is no array. Aliases on the way make no difference. -/
theorem required_of_field (hslot : place.slot = some node) (h : converter.field place = .ok field) :
    field.required = true ↔ place.required = true ∧ ∀ items, node.shape ≠ .inlineArray items := by
  rw [field_of_some hslot] at h
  cases hshape : node.shape with
  | reference target list =>
    rw [hshape] at h
    rw [Document.required_of_settle h]
    simp
  | inlineArray items =>
    rw [hshape] at h
    obtain ⟨item, -, rfl⟩ := Conversion.map_eq_ok_iff.mp h
    simp
  | unmapped =>
    rw [hshape] at h
    cases h
  | _ =>
    rw [hshape] at h
    cases h
    simp

theorem exists_required_of_property {path : TypePath} {names : List String} {property : String × Option Node}
    (h : converter.field (.property path names property) = .ok field) :
    ∃ inner, property.2 = some inner ∧
      (field.required = true ↔ property.1 ∈ names ∧ ∀ items, inner.shape ≠ .inlineArray items) := by
  obtain ⟨x, _ | inner⟩ := property
  · rw [field_of_none rfl] at h
    cases h
  · refine ⟨inner, rfl, ?_⟩
    rw [required_of_field rfl h, Place.property, List.contains_iff_mem]

theorem fielded_of_declares {path : TypePath} {isRequired : Bool} {properties : Members (Option Node)}
    {names : List String} (h : converter.Declares ⟨path, some node, isRequired⟩ entry)
    (hshape : node.shape = .composite properties names) :
    ∃ interface fields, entry.body = .composite interface fields ∧ node.Fielded properties fields := by
  cases h with
  | enum henum =>
    rw [hshape] at henum
    cases henum
  | @composite _ _ _ _ _ made hown hfields =>
    obtain ⟨rfl, rfl⟩ := Shape.composite.inj (hshape.symm.trans hown)
    obtain rfl := Node.names_of_shape_eq_composite hshape
    refine ⟨_, _, rfl, fun hnone => ?_, fun hsome => ?_, fun hsome => ?_⟩
    · subst hnone
      cases hfields
      rfl
    all_goals
      have hmade : made ≠ [] := by
        rintro rfl
        cases hfields
        exact hsome rfl
      rw [filled, if_neg (by simpa using hmade)]
    · exact names_of_forall₂ (hfields.imp fun _ _ h => h.1)
    · exact hfields.imp fun property named h => ⟨h.1, exists_required_of_property h.2⟩

/-! ### Types that are registered -/

theorem mem_survey_append (h : entry ∈ (converter.survey (places ++ later)).1) :
    entry ∈ (converter.survey places).1 ∨ entry ∈ (converter.survey later).1 := by
  rw [survey_append] at h
  rcases hs : converter.survey places with ⟨es, fault | ⟨⟩⟩ <;> rw [hs] at h
  · exact Or.inl h
  · exact List.mem_append.mp h

theorem mem_survey_trees (h : entry ∈ (converter.survey (places.flatMap Place.tree)).1) :
    ∃ place ∈ places, entry ∈ (converter.survey place.tree).1 := by
  induction places with
  | nil => cases h
  | cons place rest ih =>
    rw [List.flatMap_cons] at h
    rcases mem_survey_append h with h | h
    · exact ⟨place, List.mem_cons_self, h⟩
    · obtain ⟨lower, hlower, h⟩ := ih h
      exact ⟨lower, List.mem_cons_of_mem _ hlower, h⟩

/-- A survey comes to a type only if all below it has fields, also if it does not go on to its end. -/
theorem exists_declares_of_survey {root : Place} (h : entry ∈ (converter.survey root.tree).1) :
    ∃ place, root.Inline place ∧ converter.Declares place entry := by
  induction root using Place.tree_induction with
  | step root ih =>
    have hbelow (h : entry ∈ (converter.survey (root.children.flatMap Place.tree)).1) :
        ∃ place, root.Inline place ∧ converter.Declares place entry := by
      obtain ⟨lower, hlower, h⟩ := mem_survey_trees h
      obtain ⟨place, hplace, hdeclares⟩ := ih lower hlower h
      exact ⟨place, (Place.Inline.step .root hlower).trans hplace, hdeclares⟩
    rw [survey_tree] at h
    rcases hs : converter.survey (root.children.flatMap Place.tree) with ⟨es, fault | ⟨⟩⟩ <;> rw [hs] at h hbelow
    · exact hbelow h
    · cases hfield : converter.field root with
      | error fault =>
        rw [hfield] at h
        exact hbelow h
      | ok field =>
        rw [hfield] at h
        rcases List.mem_append.mp h with h | h
        · exact hbelow h
        · refine ⟨root, .root, declares_of_typeAt? (Option.mem_toList.mp h) fun lower hlower => ?_⟩
          exact survey_eq_ok_iff.mp (congrArg Prod.snd hs) lower
            (List.mem_flatMap.mpr ⟨lower, hlower, lower.self_mem_tree⟩)

section
variable {name : String} {slot : Option Node} {parent : Option TypePath} {required : List String} {walk : Walk}

/-- A conversion adds types that are declared in the inline tree, whether it succeeds or fails. -/
theorem exists_declares_of_convert (h : entry ∈ ((converter.convert name slot parent required).run.run
      walk).2.registry.entries.drop walk.registry.entries.length) :
    ∃ place, Place.Inline ⟨.nested parent name, slot, required.contains name⟩ place ∧
      converter.Declares place entry := by
  have hregisters : (converter.convert name slot parent required).Registers _ _ := convert_converts
  obtain ⟨before, after, hes, hregistry, -⟩ := hregisters.exists_append walk
  rw [hregistry, Registry.append, List.drop_left] at h
  refine exists_declares_of_survey ?_
  rw [hes]
  exact List.mem_append_left _ h

/-- A conversion that succeeds adds a type for each place of the inline tree where one is declared. -/
theorem exists_entry_of_convert {fragment : Fragment}
    (h : ((converter.convert name slot parent required).run.run walk).1 = .ok fragment)
    (hplace : Place.Inline ⟨.nested parent name, slot, required.contains name⟩ place)
    (hdeclares : place.declaresType = true) :
    ∃ entry ∈ ((converter.convert name slot parent required).run.run
      walk).2.registry.entries.drop walk.registry.entries.length, entry.path = place.path := by
  have hregisters : (converter.convert name slot parent required).Registers _ _ := convert_converts
  obtain ⟨houtcome, hregistry⟩ := hregisters.run_of_ok walk h
  have hend : (converter.survey (Place.tree ⟨.nested parent name, slot, required.contains name⟩)).2 = .ok () := by
    rcases hs : (converter.survey (Place.tree ⟨.nested parent name, slot, required.contains name⟩)).2 with fault | ⟨⟩
    · rw [hs] at houtcome
      cases houtcome
    · rfl
  have hsome : (converter.typeAt? place).isSome = true := isSome_typeAt?.trans hdeclares
  obtain ⟨entry, hentry⟩ := Option.isSome_iff_exists.mp hsome
  refine ⟨entry, ?_, path_of_typeAt? hentry⟩
  rw [hregistry, Registry.append, List.drop_left, survey_of_ok hend]
  exact List.mem_filterMap.mpr ⟨place, Place.mem_tree_iff.mpr hplace, hentry⟩

end

end Converter

/-! ### Lists that name the same -/

namespace Node
variable {f : Node → Node} {node : Node}

/-- A change of nodes that leaves a node as it is, but for another list of the same required names. -/
structure Relists (f : Node → Node) : Prop where
  eq : ∀ node, f node = { node with required := (f node).required }
  eq_none : ∀ node, (f node).required = none ↔ node.required = none
  mem : ∀ node name, name ∈ (f node).required.getD [] ↔ name ∈ node.required.getD []

variable (hf : Relists f)
include hf

theorem rebuild_of_relists (node : Node) : node.rebuild f = { node with
    properties := node.properties.map (·.map fun property => (property.1, property.2.map (rebuild f)))
    items := node.items.map (rebuild f)
    required := (node.rebuild f).required } := by
  rw [rebuild_eq]
  exact hf.eq _

theorem required_rebuild (node : Node) : ((node.rebuild f).required = none ↔ node.required = none) ∧
    ∀ name, name ∈ (node.rebuild f).required.getD [] ↔ name ∈ node.required.getD [] := by
  rw [rebuild_eq]
  exact ⟨hf.eq_none _, hf.mem _⟩

theorem mem_requires_rebuild (node : Node) (name : String) :
    name ∈ (node.rebuild f).requires ↔ name ∈ node.requires := by
  obtain ⟨hnone, hmem⟩ := required_rebuild hf node
  have htype : (node.rebuild f).type = node.type := by rw [rebuild_of_relists hf]
  have hitems : (node.rebuild f).items = node.items.map (rebuild f) := by rw [rebuild_of_relists hf]
  rw [requires, requires, htype, hitems]
  cases hold : node.required with
  | none =>
    rw [hnone.mpr hold]
    by_cases harray : node.type = some "array"
    · simp only [harray, ↓reduceIte]
      cases node.items with
      | none => rfl
      | some items => exact (required_rebuild hf items).2 name
    · simp only [harray, ↓reduceIte]
  | some names =>
    cases hnew : (node.rebuild f).required with
    | none =>
      rw [hnone.mp hnew] at hold
      cases hold
    | some others => simpa [hnew, hold] using hmem name

theorem shape_rebuild (node : Node) : (node.rebuild f).shape =
    match node.shape with
    | .composite properties _ => .composite (properties.map fun property => (property.1, property.2.map (rebuild f)))
        (node.rebuild f).requires
    | .inlineArray items => .inlineArray (items.rebuild f)
    | shape => shape := by
  have hvalues : (node.rebuild f).values = node.values := by rw [rebuild_of_relists hf]
  have htype : (node.rebuild f).type = node.type := by rw [rebuild_of_relists hf]
  have hreference (node : Node) : (node.rebuild f).reference = node.reference := by rw [rebuild_of_relists hf]
  have hproperties (node : Node) : (node.rebuild f).properties =
      node.properties.map (·.map fun property => (property.1, property.2.map (rebuild f))) := by
    rw [rebuild_of_relists hf]
  have hitems : (node.rebuild f).items = node.items.map (rebuild f) := by rw [rebuild_of_relists hf]
  have hitemsReference : (node.rebuild f).items.bind Node.reference = node.items.bind Node.reference := by
    rw [hitems]
    cases node.items with
    | none => rfl
    | some items => exact hreference items
  rw [shape, shape, hvalues, htype, hreference, hitemsReference]
  split
  · rfl
  · rfl
  · rfl
  · rfl
  · rw [structuralShape, structuralShape, htype, hproperties, hitems]
    by_cases hobject : node.type = some "object"
    · rw [if_pos hobject, if_pos hobject, requires_of_object (htype.trans hobject)]
      cases node.properties <;> rfl
    · rw [if_neg hobject, if_neg hobject]
      by_cases harray : node.type = some "array"
      · rw [if_pos harray, if_pos harray]
        cases hitem : node.items with
        | none => rfl
        | some items =>
          rw [hitem] at hitems
          have hitemType : (items.rebuild f).type = items.type := by rw [rebuild_of_relists hf]
          rw [requires_of_array (htype.trans harray) hitems]
          simp only [Option.map_some, arrayShape, hproperties items, hitemType]
          cases items.properties with
          | some properties => rfl
          | none =>
            simp only [Option.map_none]
            split <;> rfl
      · rw [if_neg harray, if_neg harray]

end Node

namespace Converter
variable {converter : Converter} {f : Node → Node}

section
variable {path : TypePath} {names others : List String} {properties : Members (Option Node)}

theorem visitProperties_rebuild (hnames : ∀ x, x ∈ others ↔ x ∈ names)
    (ih : ∀ x inner, (x, some inner) ∈ properties →
      converter.visit x (inner.rebuild f) (some path) (names.contains x) =
        converter.visit x inner (some path) (names.contains x)) :
    converter.visitProperties path others (properties.map fun property => (property.1, property.2.map (Node.rebuild f))) =
      converter.visitProperties path names properties := by
  induction properties with
  | nil => rw [List.map_nil, visitProperties, visitProperties]
  | cons p rest ihrest =>
    have hrest := ihrest fun x inner hmem => ih x inner (List.mem_cons_of_mem _ hmem)
    obtain ⟨x, _ | inner⟩ := p
    · simp only [List.map_cons, Option.map_none, visitProperties]
    · have hcontains : others.contains x = names.contains x := by
        rw [Bool.eq_iff_iff, List.contains_iff_mem, List.contains_iff_mem, hnames]
      simp only [List.map_cons, Option.map_some, visitProperties, hcontains, ih x inner List.mem_cons_self, hrest]

end

/-- Of lists of required names no more is looked at than which names are in them. -/
theorem visit_rebuild (hf : Node.Relists f) {name : String} {node : Node} {parent : Option TypePath} {required : Bool} :
    converter.visit name (node.rebuild f) parent required = converter.visit name node parent required := by
  induction node using Node.shape_induction generalizing name parent required with
  | step node ihproperties ihitems =>
    have hdescription : (node.rebuild f).description = node.description := by rw [Node.rebuild_of_relists hf]
    rw [visit_eq, visit_eq, Node.shape_rebuild hf, hdescription]
    cases hshape : node.shape with
    | composite properties names =>
      obtain rfl := Node.names_of_shape_eq_composite hshape
      have hproperties : converter.visitProperties (.nested parent name) (node.rebuild f).requires
          (properties.map fun property => (property.1, property.2.map (Node.rebuild f))) =
            converter.visitProperties (.nested parent name) node.requires properties :=
        visitProperties_rebuild (Node.mem_requires_rebuild hf node) fun x inner hmem =>
          ihproperties properties node.requires hshape x inner hmem
      simp only [hproperties]
    | inlineArray items => simp only [ihitems items hshape]
    | _ => rfl

theorem convert_rebuild (hf : Node.Relists f) {name : String} {slot : Option Node} {parent : Option TypePath}
    {required others : List String} (hothers : ∀ x, x ∈ others ↔ x ∈ required) :
    converter.convert name (slot.map (Node.rebuild f)) parent others = converter.convert name slot parent required := by
  have hcontains : others.contains name = required.contains name := by
    rw [Bool.eq_iff_iff, List.contains_iff_mem, List.contains_iff_mem, hothers]
  cases slot with
  | none => rfl
  | some node => rw [Option.map_some, convert, convert, visit_rebuild hf, hcontains]

/-- Every composite that conversion adds to a registry is one in the inline tree, and has the fields of the composite at
its path. Each composite of the inline tree, at any depth, is added if conversion succeeds, and if it is added, then with
its own fields. Conversion looks at no more of any list of required names than which names are in it. -/
theorem fields_of_convert (converter : Converter) (name : String) (slot : Option SoundNode) (parent : Option TypePath)
    (required : List String) (walk : Walk) :
    let conversion := converter.convert name (slot.map Subtype.val) parent required
    let root : Place := ⟨.nested parent name, slot.map Subtype.val, required.contains name⟩
    let added := (conversion.run.run walk).2.registry.entries.drop walk.registry.entries.length
    (∀ entry ∈ added, ∀ interface fields, entry.body = .composite interface fields → ∃ node properties,
      root.Inline ⟨entry.path, some node, entry.required⟩ ∧ node.shape = .composite properties node.requires ∧
      node.Fielded properties fields) ∧
    (∀ path node isRequired properties names, root.Inline ⟨path, some node, isRequired⟩ →
      node.shape = .composite properties names →
      (∀ fragment, (conversion.run.run walk).1 = .ok fragment → ∃ entry ∈ added, entry.path = path) ∧
      ∀ entry ∈ added, entry.path = path →
        ∃ interface fields, entry.body = .composite interface fields ∧ node.Fielded properties fields) ∧
    ∀ (f : Node → Node) (others : List String), Node.Relists f → (∀ x, x ∈ others ↔ x ∈ required) →
      converter.convert name (slot.map fun node => node.val.rebuild f) parent others = conversion := by
  intro conversion root added
  refine ⟨fun entry hentry interface fields hbody => ?_, fun path node isRequired properties names hplace hshape => ?_,
    fun f others hf hothers => ?_⟩
  · obtain ⟨place, hplace, hdeclares⟩ := exists_declares_of_convert hentry
    have hsame := hdeclares
    cases hdeclares with
    | enum hshape => cases hbody
    | @composite path isRequired node properties names made hshape hfields =>
      obtain ⟨_, _, hown, hfielded⟩ := fielded_of_declares hsame hshape
      obtain ⟨-, rfl⟩ := Body.composite.inj (hown.symm.trans hbody)
      obtain rfl := Node.names_of_shape_eq_composite hshape
      exact ⟨node, properties, hplace, hshape, hfielded⟩
  · constructor
    · intro fragment hok
      exact exists_entry_of_convert hok hplace (by simp [Place.declaresType, Shape.declaresType, hshape])
    · intro entry hentry hpath
      obtain ⟨found, hfound, hdeclares⟩ := exists_declares_of_convert hentry
      have hroot : root.Sound := Place.sound_of_map
      obtain rfl := hroot.eq_of_path hfound hplace (hdeclares.path_required.1.symm.trans hpath)
      exact fielded_of_declares hdeclares hshape
  · have hslot : slot.map (fun node => node.val.rebuild f) = (slot.map Subtype.val).map (Node.rebuild f) :=
      (Option.map_map _ _ _).symm
    rw [hslot]
    exact convert_rebuild hf hothers

/-! ### An array of parcels -/

/-- An array whose items have properties: an array, a reference along two aliases, and a text. -/
def parcels : SoundNode := Node.ofParts
  { type := some "array"
    items := some (Node.ofParts
      { properties := some (Definitions.empty
          |>.put "marks" (some (Node.ofParts { type := some "array", items := some remark }))
          |>.put "weight" (some (pointer "Weight" false none))
          |>.put "note" (some remark))
        required := some ["weight", "marks", "weight"] }) }

def depot : Converter where
  document := ⟨Definitions.empty
    |>.put "Weight" (some (pointer "Number" false none))
    |>.put "Number" (some (Node.ofParts { type := some "number" }))⟩
  root := "Depot"

def parcelFields : Members Field :=
  [("marks", ⟨.list (.scalar .string), none, false⟩), ("weight", ⟨.scalar .float, none, true⟩),
    ("note", ⟨.scalar .string, some "", false⟩)]

def parcelType : Entry := ⟨⟨"Parcels", []⟩, none, false, .composite false parcelFields⟩

theorem registry_parcels :
    ((depot.convert "Parcels" (some parcels.val) none []).run.run {}).2.registry = ⟨[parcelType]⟩ := by cbv

def backwards (node : Node) : Node := { node with required := node.required.map List.reverse }

theorem relists_backwards : Node.Relists backwards where
  eq _ := rfl
  eq_none _ := Option.map_eq_none_iff
  mem node name := by
    rw [backwards]
    cases node.required with
    | none => rfl
    | some names => exact List.mem_reverse

theorem fields_of_convert_parcels :
    ((depot.convert "Parcels" (some parcels.val) none []).run.run {}).2.registry = ⟨[parcelType]⟩ ∧
    (∃ node properties, Place.Inline ⟨⟨"Parcels", []⟩, some parcels.val, false⟩ ⟨⟨"Parcels", []⟩, some node, false⟩ ∧
      node.shape = .composite properties node.requires ∧ node.Fielded properties parcelFields) ∧
    depot.convert "Parcels" (some (parcels.val.rebuild backwards)) none [] =
      depot.convert "Parcels" (some parcels.val) none [] := by
  obtain ⟨hadded, -, hset⟩ := fields_of_convert depot "Parcels" (some parcels) none [] {}
  have hparcels : parcelType ∈ ((depot.convert "Parcels" (some parcels.val) none []).run.run
      {}).2.registry.entries.drop 0 := by
    rw [registry_parcels]
    exact List.mem_singleton_self _
  exact ⟨registry_parcels, hadded parcelType hparcels false parcelFields rfl,
    hset backwards [] relists_backwards fun _ => Iff.rfl⟩

end Converter
end SchemaSdl
