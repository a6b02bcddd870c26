import SchemaSdl.Proofs.Alias
import SchemaSdl.Proofs.InlineTree

/-! Conversion as a survey of the inline tree: place after place in the order of the tree, it registers the type
that stands there, if any, and stops at the first place without a field. The survey says which types a conversion
registers and how it ends, whatever the registry. -/

namespace SchemaSdl.Converter
variable {converter : Converter}

/-! ### What stands at a place -/

/-- The field that the holder of a place gets. -/
def field (converter : Converter) (place : Place) : Except Fault Field :=
  match hslot : place.slot with
  | none => .error (.malformedNode place.path.lastName place.path.parent?)
  | some node =>
    match h : node.shape with
    | .enum _ | .composite .. => .ok ⟨.named place.path.joined, node.description, place.required⟩
    | .scalar scalar => .ok ⟨.scalar scalar, node.description, place.required⟩
    | .reference target list =>
      converter.document.settle place.path.lastName place.required [] node.description target list
    | .inlineArray inner =>
      have : Place.items place.path inner ∈ place.children := by simp [Place.children, hslot, h]
      (field converter (.items place.path inner)).map fun item => ⟨.list item.label, node.description, false⟩
    | .unmapped => .error (.unmappable place.path.lastName place.path.parent?)
termination_by sizeOf place.slot
decreasing_by exact Place.sizeOf_slot_lt this

/-- The fields that some places give to their holder, under their names. -/
def fieldsOf (converter : Converter) (places : List Place) : Members Field :=
  places.filterMap fun place => (converter.field place).toOption.map (place.path.lastName, ·)

/-- Fields for a composite, which has at least one. -/
def filled (fields : Members Field) : Members Field := if fields.isEmpty then [("_", .placeholder)] else fields

/-- The type that stands at a place. -/
def typeAt? (converter : Converter) (place : Place) : Option Entry :=
  place.slot.bind fun node =>
    match node.shape with
    | .enum values => some ⟨place.path, node.description, place.required, .enum (values.map sanitized)⟩
    | .composite .. => some ⟨place.path, node.description, place.required,
        .composite (place.path.joined = converter.root) (filled (converter.fieldsOf place.children))⟩
    | _ => none

/-- What converting the node at a place gives to its holder. -/
def fragment (converter : Converter) (place : Place) : Except Fault Fragment :=
  (converter.field place).map fun field =>
    ⟨place.path.lastName, field, if place.declaresType then some place.path else none⟩

/-- The types at some places up to the first place without a field, and how far that is. -/
def survey (converter : Converter) : List Place → List Entry × Except Fault Unit
  | [] => ([], .ok ())
  | place :: rest =>
    match converter.field place with
    | .error fault => ([], .error fault)
    | .ok _ => ((converter.typeAt? place).toList ++ (survey converter rest).1, (survey converter rest).2)

section Places
variable {place : Place} {places later : List Place} {node : Node}

theorem field_of_none (hslot : place.slot = none) :
    converter.field place = .error (.malformedNode place.path.lastName place.path.parent?) := by
  rw [field]
  split
  · rfl
  · simp_all

theorem field_of_some (hslot : place.slot = some node) : converter.field place =
    match node.shape with
    | .enum _ | .composite .. => .ok ⟨.named place.path.joined, node.description, place.required⟩
    | .scalar scalar => .ok ⟨.scalar scalar, node.description, place.required⟩
    | .reference target list =>
      converter.document.settle place.path.lastName place.required [] node.description target list
    | .inlineArray inner =>
      (converter.field (.items place.path inner)).map fun item => ⟨.list item.label, node.description, false⟩
    | .unmapped => .error (.unmappable place.path.lastName place.path.parent?) := by
  rw [field]
  split
  · simp_all
  · obtain rfl := Option.some.inj (hslot.symm.trans ‹_›)
    split <;> rename_i h <;> simp only [h]

theorem isSome_typeAt? : (converter.typeAt? place).isSome = place.declaresType := by
  obtain ⟨path, _ | node, required⟩ := place
  · rfl
  · simp only [typeAt?, Place.declaresType, Option.bind_some, Option.any_some]
    cases node.shape <;> rfl

theorem declaresType_of_typeAt? {entry : Entry} (h : converter.typeAt? place = some entry) :
    place.declaresType = true := by
  rw [← isSome_typeAt?, h, Option.isSome_some]

theorem path_of_typeAt? {entry : Entry} (h : converter.typeAt? place = some entry) : entry.path = place.path := by
  obtain ⟨path, _ | node, required⟩ := place
  · cases h
  · simp only [typeAt?, Option.bind_some] at h
    split at h <;> cases h <;> rfl

theorem fieldsOf_cons {field : Field} (h : converter.field place = .ok field) :
    converter.fieldsOf (place :: places) = (place.path.lastName, field) :: converter.fieldsOf places := by
  simp [fieldsOf, h, Except.toOption]

/-! ### The survey -/

theorem survey_append : converter.survey (places ++ later) =
    match converter.survey places with
    | (es, .ok ()) => (es ++ (converter.survey later).1, (converter.survey later).2)
    | (es, .error fault) => (es, .error fault) := by
  induction places with
  | nil => rfl
  | cons place rest ih =>
    simp only [List.cons_append, survey]
    cases converter.field place with
    | error fault => rfl
    | ok field =>
      simp only [ih]
      rcases converter.survey rest with ⟨es, _ | _⟩
      · rfl
      · simp

/-- The survey of a tree comes to the place at its root last. -/
theorem survey_tree : converter.survey place.tree =
    match converter.survey (place.children.flatMap Place.tree), converter.field place with
    | (es, .ok ()), .ok _ => (es ++ (converter.typeAt? place).toList, .ok ())
    | (es, .ok ()), .error fault => (es, .error fault)
    | (es, .error fault), _ => (es, .error fault) := by
  rw [Place.tree_eq, survey_append]
  rcases converter.survey (place.children.flatMap Place.tree) with ⟨es, fault | ⟨⟩⟩
  · rfl
  · simp only [survey]
    cases converter.field place <;> simp

theorem survey_eq_ok_iff : (converter.survey places).2 = .ok () ↔
    ∀ place ∈ places, ∃ field, converter.field place = .ok field := by
  induction places with
  | nil => simp [survey]
  | cons place rest ih =>
    rw [survey, List.forall_mem_cons, ← ih]
    cases converter.field place <;> simp

/-- A survey ends at a place without a field. -/
theorem survey_of_ok (h : (converter.survey places).2 = .ok ()) :
    (converter.survey places).1 = places.filterMap converter.typeAt? := by
  induction places with
  | nil => rfl
  | cons place rest ih =>
    rw [survey] at h ⊢
    cases hf : converter.field place with
    | error fault => simp [hf] at h
    | ok field =>
      simp only [hf] at h ⊢
      rw [ih h, List.filterMap_cons]
      cases converter.typeAt? place <;> rfl

theorem survey_isPrefix : (converter.survey places).1 <+: places.filterMap converter.typeAt? := by
  induction places with
  | nil => exact List.prefix_refl _
  | cons place rest ih =>
    rw [survey]
    cases converter.field place with
    | error fault => exact List.nil_prefix
    | ok field =>
      rw [List.filterMap_cons]
      cases converter.typeAt? place with
      | none => exact ih
      | some entry => exact (List.prefix_append_right_inj [entry]).mpr ih

theorem paths_sublist : ((converter.survey places).1.map Entry.path).Sublist (places.map Place.path) := by
  refine (survey_isPrefix.map Entry.path).sublist.trans ?_
  induction places with
  | nil => exact List.Sublist.slnil
  | cons place rest ih =>
    rw [List.filterMap_cons, List.map_cons]
    cases h : converter.typeAt? place with
    | none => exact ih.cons _
    | some entry =>
      simp only [List.map_cons, path_of_typeAt? h]
      exact ih.cons_cons _

theorem field_ne_duplicateType {held refused : TypePath} :
    converter.field place ≠ .error (.duplicateType held refused) := by
  induction place using Place.tree_induction with
  | step place ih =>
    cases hslot : place.slot with
    | none => simp [field_of_none hslot]
    | some node =>
      rw [field_of_some hslot]
      cases h : node.shape with
      | reference target list => exact Document.settle_ne_duplicateType
      | inlineArray inner =>
        have hinner := ih (.items place.path inner) (by simp [Place.children, hslot, h])
        exact fun heq => hinner (Conversion.map_eq_error_iff.mp heq)
      | _ => simp

theorem survey_ne_duplicateType {held refused : TypePath} :
    (converter.survey places).2 ≠ .error (.duplicateType held refused) := by
  induction places with
  | nil => simp [survey]
  | cons place rest ih =>
    rw [survey]
    cases h : converter.field place with
    | error fault =>
      rintro ⟨⟩
      exact field_ne_duplicateType h
    | ok field => exact ih

/-- The outcome of a survey of a tree and what comes to its root is no collision. -/
theorem outcome_ne_duplicateType {held refused : TypePath} :
    ((converter.survey place.tree).2.bind fun _ => converter.fragment place) ≠
      .error (.duplicateType held refused) := by
  rcases hs : (converter.survey place.tree).2 with fault | ⟨⟩
  · exact fun h => survey_ne_duplicateType (hs.trans (congrArg Except.error (Except.error.inj h)))
  · obtain ⟨field, hfield⟩ := survey_eq_ok_iff.mp hs place place.self_mem_tree
    rw [fragment, hfield]
    exact nofun

end Places

/-! ### Conversion in steps -/

section Visit
variable {name : String} {node : Node} {parent : Option TypePath} {path : TypePath} {required : Bool}
  {names : List String} {properties : Members (Option Node)}

theorem visit_eq : converter.visit name node parent required = (do
    let path := TypePath.nested parent name
    Conversion.note (.classifying name path)
    match node.shape with
    | .enum values =>
      Conversion.register ⟨path, node.description, required, .enum (values.map sanitized)⟩
      return ⟨name, ⟨.named path.joined, node.description, required⟩, some path⟩
    | .scalar scalar => return ⟨name, ⟨.scalar scalar, node.description, required⟩, none⟩
    | .reference target list =>
      let field ← converter.document.follow name required [] node.description target list
      return ⟨name, field, none⟩
    | .composite properties names =>
      let fields ← converter.visitProperties path names properties
      Conversion.register
        ⟨path, node.description, required, .composite (path.joined = converter.root) (filled fields)⟩
      return ⟨name, ⟨.named path.joined, node.description, required⟩, some path⟩
    | .inlineArray items =>
      let item ← converter.visit name items (some path) false
      return ⟨name, ⟨.list item.field.label, node.description, false⟩, none⟩
    | .unmapped => throw (.unmappable name parent)) := by
  rw [visit]
  refine congrArg _ (funext fun _ => ?_)
  split <;> rename_i h <;> simp only [h, filled]

/-- Converting a place: the types of its survey, and then the fragment, if the survey goes to the end. -/
def Converts (converter : Converter) (c : Conversion Fragment) (place : Place) : Prop :=
  c.Registers (converter.survey place.tree).1 ((converter.survey place.tree).2.bind fun _ => converter.fragment place)

theorem visitProperties_registers
    (ih : ∀ p ∈ properties, ∀ node, p.2 = some node →
      converter.Converts (converter.visit p.1 node (some path) (names.contains p.1)) (.property path names p)) :
    (converter.visitProperties path names properties).Registers
      (converter.survey ((properties.map (Place.property path names)).flatMap Place.tree)).1
      ((converter.survey ((properties.map (Place.property path names)).flatMap Place.tree)).2.bind fun _ =>
        .ok (converter.fieldsOf (properties.map (Place.property path names)))) := by
  induction properties with
  | nil =>
    rw [visitProperties]
    exact Conversion.registers_pure
  | cons p rest ihrest =>
    obtain ⟨hvisit, hrest⟩ := List.forall_mem_cons.1 ih
    have hrest := ihrest hrest
    obtain ⟨name, _ | node⟩ := p
    · -- A property without a schema ends the survey.
      rw [visitProperties, List.map_cons, List.flatMap_cons, Place.tree_eq, survey_append]
      simp only [Place.children, Place.property, Option.map_none, List.flatMap_nil, List.nil_append, survey]
      rw [field_of_none rfl, TypePath.lastName_child, TypePath.parent?_child]
      exact Conversion.registers_throw
    · have hvisit := hvisit node rfl
      rw [Converts] at hvisit
      rw [visitProperties, List.map_cons, List.flatMap_cons, survey_append]
      rcases hs : converter.survey (Place.property path names (name, some node)).tree with ⟨es, fault | ⟨⟩⟩
      · rw [hs] at hvisit
        exact hvisit.bind_error
      · obtain ⟨field, hfield⟩ := survey_eq_ok_iff.mp (congrArg Prod.snd hs) _ (Place.self_mem_tree _)
        rw [hs, fragment, hfield] at hvisit
        rw [fieldsOf_cons hfield]
        have hfields := hvisit.bind (k := fun fragment => do
          let fields ← converter.visitProperties path names rest
          return (fragment.name, fragment.field) :: fields) hrest.map
        convert hfields using 1
        rcases (converter.survey ((rest.map (Place.property path names)).flatMap Place.tree)).2 with _ | _ <;> rfl

/-- Converting a node surveys its inline tree. -/
theorem visit_converts : converter.Converts (converter.visit name node parent required)
    ⟨.nested parent name, some node, required⟩ := by
  generalize hplace : (⟨.nested parent name, some node, required⟩ : Place) = place
  induction place using Place.tree_induction generalizing name node parent required with
  | step place ih =>
    subst hplace
    have hfield : converter.field ⟨.nested parent name, some node, required⟩ = _ := field_of_some rfl
    -- A visit goes as the tree does: first what is below, which may fail, and then the node itself.
    rw [visit_eq, Converts, survey_tree, fragment, TypePath.lastName_nested]
    refine Conversion.registers_note.bind ?_
    cases h : node.shape with
    | enum values =>
      simp only [h] at hfield
      simp only [hfield, Place.children, Place.declaresType, typeAt?, Option.map_some, Option.any_some,
        Option.bind_some, h]
      exact Conversion.registers_register.bind Conversion.registers_pure
    | scalar s =>
      simp only [h] at hfield
      simp only [hfield, Place.children, Place.declaresType, typeAt?, Option.map_some, Option.any_some,
        Option.bind_some, h]
      exact Conversion.registers_pure
    | reference target list =>
      simp only [h, TypePath.lastName_nested] at hfield
      simp only [hfield, Place.children, Place.declaresType, typeAt?, Option.map_some, Option.any_some,
        Option.bind_some, h]
      have hfollow : (converter.document.follow name required [] node.description target list).Registers [] _ :=
        Document.follow_registers
      rcases hs : converter.document.settle name required [] node.description target list with fault | result
      · rw [hs] at hfollow
        exact hfollow.bind_error
      · rw [hs] at hfollow
        exact hfollow.bind Conversion.registers_pure
    | composite properties names =>
      simp only [h] at hfield
      have hchildren : Place.children ⟨.nested parent name, some node, required⟩ = _ := Place.children_of_composite h
      have hfields : (converter.visitProperties (.nested parent name) names properties).Registers _ _ :=
        visitProperties_registers fun p hp inner hinner => by
          refine ih _ (hchildren ▸ List.mem_map_of_mem hp) ?_
          rw [← hinner]
          rfl
      simp only [hfield, Place.declaresType, typeAt?, Option.any_some, Option.bind_some, h, hchildren]
      rcases hs : converter.survey ((properties.map (Place.property (.nested parent name) names)).flatMap Place.tree)
        with ⟨es, fault | ⟨⟩⟩
      · rw [hs] at hfields
        exact hfields.bind_error
      · rw [hs] at hfields
        exact hfields.bind (Conversion.registers_register.bind Conversion.registers_pure)
    | inlineArray inner =>
      simp only [h] at hfield
      have hchildren : Place.children ⟨.nested parent name, some node, required⟩ = _ := Place.children_of_inlineArray h
      have hitems : (converter.visit name inner (some (.nested parent name)) false).Registers _ _ :=
        ih (.items (.nested parent name) inner) (hchildren ▸ List.mem_singleton_self _) (by
          rw [Place.items, TypePath.lastName_nested]
          rfl)
      rw [hchildren, List.flatMap_singleton]
      rcases hs : converter.survey (Place.items (.nested parent name) inner).tree with ⟨es, fault | ⟨⟩⟩
      · rw [hs] at hitems
        exact hitems.bind_error
      · obtain ⟨item, hitem⟩ := survey_eq_ok_iff.mp (congrArg Prod.snd hs) _ (Place.self_mem_tree _)
        rw [hs, fragment, hitem] at hitems
        simp only [hfield, hitem, Place.declaresType, typeAt?, Option.any_some, Option.bind_some, h]
        exact hitems.bind Conversion.registers_pure
    | unmapped =>
      simp only [h] at hfield
      simp only [hfield, Place.children, Place.declaresType, Option.map_some, h]
      rw [TypePath.lastName_nested, TypePath.parent?_nested]
      exact Conversion.registers_throw

theorem convert_converts {slot : Option Node} {names : List String} :
    converter.Converts (converter.convert name slot parent names) ⟨.nested parent name, slot, names.contains name⟩ := by
  cases slot with
  | none =>
    rw [convert, Converts, Place.tree_eq]
    simp only [Place.children, Option.map_none, List.flatMap_nil, List.nil_append, survey]
    rw [field_of_none rfl, TypePath.lastName_nested, TypePath.parent?_nested]
    exact Conversion.registers_throw
  | some node => exact visit_converts

end Visit

/-! ### Where a conversion stops -/

section Stops
variable {root place : Place} {places more : List Place} {fault : Fault}

/-- A survey of these places stops here: all places before have fields, and so has all that is one step down. -/
structure Stops (converter : Converter) (places : List Place) (fault : Fault) (place : Place) : Prop where
  fails : converter.field place = .error fault
  first : ∃ before after, places = before ++ place :: after ∧
    ∀ earlier ∈ before, ∃ field, converter.field earlier = .ok field
  below : ∀ lower ∈ place.children, ∃ field, converter.field lower = .ok field

theorem Stops.mem (h : converter.Stops places fault place) : place ∈ places := by
  obtain ⟨before, after, rfl, -⟩ := h.first
  exact List.mem_append_right _ List.mem_cons_self

theorem Stops.append (h : converter.Stops places fault place) : converter.Stops (places ++ more) fault place := by
  obtain ⟨before, after, rfl, hbefore⟩ := h.first
  exact ⟨h.fails, ⟨before, after ++ more, by simp, hbefore⟩, h.below⟩

theorem Stops.after (h : converter.Stops places fault place)
    (hmore : ∀ earlier ∈ more, ∃ field, converter.field earlier = .ok field) :
    converter.Stops (more ++ places) fault place := by
  obtain ⟨before, after, rfl, hbefore⟩ := h.first
  refine ⟨h.fails, ⟨more ++ before, after, by simp, fun earlier hearlier => ?_⟩, h.below⟩
  exact (List.mem_append.mp hearlier).elim (hmore earlier) (hbefore earlier)

theorem exists_stops_of_trees
    (ih : ∀ place ∈ places, (converter.survey place.tree).2 = .error fault →
      ∃ failing, converter.Stops place.tree fault failing)
    (h : (converter.survey (places.flatMap Place.tree)).2 = .error fault) :
    ∃ failing, converter.Stops (places.flatMap Place.tree) fault failing := by
  induction places with
  | nil => cases h
  | cons place rest ihrest =>
    obtain ⟨hplace, hrest⟩ := List.forall_mem_cons.mp ih
    rw [List.flatMap_cons, survey_append] at h
    rw [List.flatMap_cons]
    rcases hs : converter.survey place.tree with ⟨es, cause | ⟨⟩⟩ <;> rw [hs] at h hplace
    · obtain ⟨failing, hstops⟩ := hplace h
      exact ⟨failing, hstops.append⟩
    · obtain ⟨failing, hstops⟩ := ihrest hrest h
      exact ⟨failing, hstops.after (survey_eq_ok_iff.mp (congrArg Prod.snd hs))⟩

/-- A survey of a tree that fails stops somewhere in it. -/
theorem exists_stops (h : (converter.survey root.tree).2 = .error fault) :
    ∃ place, converter.Stops root.tree fault place := by
  induction root using Place.tree_induction with
  | step root ih =>
    have hbelow := exists_stops_of_trees ih
    rw [survey_tree] at h
    rw [Place.tree_eq]
    rcases hs : converter.survey (root.children.flatMap Place.tree) with ⟨es, cause | ⟨⟩⟩ <;> rw [hs] at h hbelow
    · obtain ⟨failing, hstops⟩ := hbelow h
      exact ⟨failing, hstops.append⟩
    · -- All below the root has fields, so the root itself has none.
      have hfields := survey_eq_ok_iff.mp (congrArg Prod.snd hs)
      cases hroot : converter.field root with
      | ok field =>
        rw [hroot] at h
        cases h
      | error cause =>
        rw [hroot] at h
        obtain rfl := Except.error.inj h
        refine ⟨root, hroot, ⟨_, [], rfl, hfields⟩, fun lower hlower => ?_⟩
        exact hfields lower (List.mem_flatMap.mpr ⟨lower, hlower, lower.self_mem_tree⟩)

/-- The node at which a conversion stops is missing, has no shape, or is a reference that does not settle. -/
theorem Stops.cases (h : converter.Stops places fault place) :
    place.slot = none ∧ fault = .malformedNode place.path.lastName place.path.parent? ∨
    ∃ node, place.slot = some node ∧
      (node.shape = .unmapped ∧ fault = .unmappable place.path.lastName place.path.parent? ∨
      ∃ target list, node.shape = .reference target list ∧ converter.document.settle place.path.lastName place.required []
        node.description target list = .error fault) := by
  have hfails := h.fails
  cases hslot : place.slot with
  | none =>
    rw [field_of_none hslot] at hfails
    exact Or.inl ⟨rfl, (Except.error.inj hfails).symm⟩
  | some node =>
    rw [field_of_some hslot] at hfails
    refine Or.inr ⟨node, rfl, ?_⟩
    cases hshape : node.shape with
    | reference target list =>
      rw [hshape] at hfails
      exact Or.inr ⟨target, list, rfl, hfails⟩
    | unmapped =>
      rw [hshape] at hfails
      exact Or.inl ⟨rfl, (Except.error.inj hfails).symm⟩
    | inlineArray inner =>
      obtain ⟨item, hitem⟩ := h.below (.items place.path inner) (by simp [Place.children, hslot, hshape])
      rw [hshape] at hfails
      simp only [hitem] at hfails
      cases hfails
    | _ =>
      rw [hshape] at hfails
      cases hfails

/-- A conversion that fails, and not by a collision, stops at a place of the inline tree. -/
theorem exists_stops_of_convert {name : String} {slot : Option Node} {parent : Option TypePath}
    {required : List String} {walk : Walk}
    (h : ((converter.convert name slot parent required).run.run walk).1 = .error fault)
    (hfault : ∀ held refused, fault ≠ .duplicateType held refused) :
    ∃ place, converter.Stops (Place.tree ⟨.nested parent name, slot, required.contains name⟩) fault place := by
  let root : Place := ⟨.nested parent name, slot, required.contains name⟩
  have hconverts : (converter.convert name slot parent required).Registers (converter.survey root.tree).1
      ((converter.survey root.tree).2.bind fun _ => converter.fragment root) := convert_converts
  have houtcome := hconverts.outcome_eq_error walk h hfault
  rcases hsurvey : (converter.survey root.tree).2 with cause | ⟨⟩ <;> rw [hsurvey] at houtcome
  · obtain rfl := Except.error.inj houtcome
    exact exists_stops hsurvey
  · obtain ⟨field, hfield⟩ := survey_eq_ok_iff.mp hsurvey root root.self_mem_tree
    rw [Except.bind, fragment, hfield] at houtcome
    cases houtcome

/-- If a conversion fails, and not by a collision, then at a place in the inline tree. -/
theorem exists_field_of_convert {name : String} {parent : Option TypePath} {slot : Option Node} {names : List String}
    {walk : Walk} (h : ((converter.convert name slot parent names).run.run walk).1 = .error fault)
    (hfault : ∀ held refused, fault ≠ .duplicateType held refused) :
    ∃ place, Place.Inline ⟨.nested parent name, slot, names.contains name⟩ place ∧
      converter.field place = .error fault := by
  obtain ⟨place, hstops⟩ := exists_stops_of_convert h hfault
  exact ⟨place, Place.mem_tree_iff.mp hstops.mem, hstops.fails⟩

end Stops
end SchemaSdl.Converter
