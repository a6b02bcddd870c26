import Mathlib
import SchemaSdl.Proofs.Chains

/-! Which type a report of failure names as the one around it. It names what holds the node that fails: the composite
of which the node is a property, or the array of which it holds the items. A reference that fails through its aliases
names nothing, because what is behind them stands under no type. -/

namespace SchemaSdl

/-! ### Where a place lies -/

theorem Text.intercalate_append {α : Type} {c : α} {pieces more : List (List α)} (hpieces : pieces ≠ [])
    (hmore : more ≠ []) : [c].intercalate (pieces ++ more) = [c].intercalate pieces ++ c :: [c].intercalate more := by
  induction pieces with
  | nil => exact absurd rfl hpieces
  | cons piece pieces ih =>
    cases pieces with
    | nil => simp [List.intercalate_cons_of_ne_nil hmore]
    | cons next pieces =>
      rw [List.cons_append, List.intercalate_cons_of_ne_nil (by simp), ih (List.cons_ne_nil _ _),
        List.intercalate_cons_cons]
      simp

namespace Place
variable {root place upper lower composite : Place} {x : String} {k : Nat}

/-- The second place lies in this many arrays that begin at the first. -/
inductive Nested (place : Place) : Nat → Place → Prop
  | here : Nested place 0 place
  | items {k : Nat} {upper : Place} {node inner : Node} (h : Nested place k upper) (hslot : upper.slot = some node)
      (hshape : node.shape = .inlineArray inner) : Nested place (k + 1) (.items upper.path inner)

/-- The second place is a property of the composite at the first, or lies in this many arrays that begin at one. -/
def Encloses (composite : Place) (x : String) (k : Nat) (place : Place) : Prop :=
  ∃ node properties names slot, composite.slot = some node ∧ node.shape = .composite properties names ∧
    (x, slot) ∈ properties ∧ (property composite.path names (x, slot)).Nested k place

theorem Inline.encloses_or_nested (h : root.Inline place) :
    (∃ composite x k, root.Inline composite ∧ composite.Encloses x k place) ∨ ∃ k, root.Nested k place := by
  induction h with
  | root => exact Or.inr ⟨0, .here⟩
  | @step upper lower hupper hlower ih =>
    rcases mem_children hlower with ⟨node, properties, names, ⟨x, slot⟩, hslot, hshape, hp, rfl⟩ |
        ⟨node, inner, hslot, hshape, rfl⟩
    · exact Or.inl ⟨upper, x, 0, hupper, node, properties, names, slot, hslot, hshape, hp, .here⟩
    · -- An array keeps the composite around it and is one more that lies in it.
      rcases ih with ⟨composite, x, k, hinline, outer, properties, names, slot, hs, hc, hp, hnested⟩ | ⟨k, hnested⟩
      · exact Or.inl ⟨composite, x, k + 1, hinline, outer, properties, names, slot, hs, hc, hp,
          hnested.items hslot hshape⟩
      · exact Or.inr ⟨k + 1, hnested.items hslot hshape⟩

theorem Nested.segments (h : place.Nested k lower) : lower.path.lastName = place.path.lastName ∧
    lower.path.segments = place.path.segments ++ List.replicate k place.path.lastName := by
  induction h with
  | here => exact ⟨rfl, (List.append_nil _).symm⟩
  | @items k upper node inner h hslot hshape ih =>
    obtain ⟨hname, hsegments⟩ := ih
    refine ⟨by rw [Place.items, TypePath.lastName_child, hname], ?_⟩
    rw [Place.items, TypePath.segments_child, hsegments, hname, List.append_assoc, ← List.replicate_succ']

theorem Nested.parent?_succ (h : place.Nested (k + 1) lower) : lower.path.parent?.map TypePath.segments =
    some (place.path.segments ++ List.replicate k place.path.lastName) := by
  cases h with
  | @items k upper node inner h hslot hshape =>
    rw [Place.items, TypePath.parent?_child, Option.map_some, h.segments.2]

/-- What a composite encloses is held by it, or by the innermost of the arrays between them. -/
theorem Encloses.parent? (h : composite.Encloses x k lower) : lower.path.parent?.map TypePath.segments =
    some (composite.path.segments ++ List.replicate k x) := by
  obtain ⟨node, properties, names, slot, hslot, hshape, hp, hnested⟩ := h
  cases k with
  | zero =>
    cases hnested
    rw [property, TypePath.parent?_child, List.replicate_zero, List.append_nil, Option.map_some]
  | succ k =>
    rw [hnested.parent?_succ, property, TypePath.segments_child, TypePath.lastName_child, List.append_assoc,
      List.replicate_succ, List.singleton_append]

theorem Nested.parent?_definition {name : String} {slot : Option Node} {required : Bool}
    (h : Nested ⟨⟨name, []⟩, slot, required⟩ k lower) :
    lower.path.parent?.map TypePath.segments = if k = 0 then none else some (List.replicate k name) := by
  cases k with
  | zero =>
    cases h
    rfl
  | succ k =>
    rw [h.parent?_succ, if_neg (Nat.succ_ne_zero k), List.replicate_succ]
    rfl

/-- The name of what holds a place in the tree of a definition: that of the composite around it with the name of the
property again for each array between them, or, in no composite, that of the definition once for each array. -/
structure HeldBy (root place : Place) (holder : Option String) : Prop where
  enclosed : ∀ (composite : Place) (x : String) (k : Nat), composite.Encloses x k place →
    holder = some ("_".intercalate (composite.path.segments ++ List.replicate k x))
  nested : ∀ k : Nat, root.Nested k place →
    holder = if k = 0 then none else some ("_".intercalate (List.replicate k root.path.root))

theorem heldBy_parent {name : String} {slot : Option Node} {required : Bool} :
    HeldBy ⟨⟨name, []⟩, slot, required⟩ place (place.path.parent?.map TypePath.joined) := by
  have hjoined (path : Option TypePath) :
      path.map TypePath.joined = (path.map TypePath.segments).map ("_".intercalate ·) := by
    rw [Option.map_map]
    rfl
  refine ⟨fun composite x k h => ?_, fun k h => ?_⟩
  · rw [hjoined, h.parent?, Option.map_some]
  · rw [hjoined, h.parent?_definition]
    split <;> rfl

/-- What holds a place in a composite goes by the name of the composite exactly if the place is a property of it, not in
an array. -/
theorem HeldBy.eq_joined_iff {holder : Option String} (h : root.HeldBy place holder)
    (hencloses : composite.Encloses x k place) : holder = some composite.path.joined ↔ k = 0 := by
  rw [h.enclosed composite x k hencloses]
  constructor
  · intro hname
    by_contra hk
    obtain ⟨k, rfl⟩ := Nat.exists_eq_succ_of_ne_zero hk
    -- Each further name makes the joined one longer.
    have hlonger : ("_".intercalate (composite.path.segments ++ List.replicate (k + 1) x)).toList =
        composite.path.joined.toList ++ '_' :: ['_'].intercalate ((List.replicate (k + 1) x).map String.toList) := by
      rw [TypePath.joined, String.toList_intercalate, String.toList_intercalate, List.map_append]
      exact Text.intercalate_append (by simp [TypePath.segments]) (by simp [List.replicate_succ])
    have hlength := congrArg (fun name => name.toList.length) (Option.some.inj hname)
    simp only [hlonger, List.length_append, List.length_cons] at hlength
    omega
  · rintro rfl
    rw [List.replicate_zero, List.append_nil]
    rfl

end Place

/-! ### Aliases that lead nowhere -/

namespace Document
variable {document : Document} {field target : String} {required list : Bool} {passed : List String}
  {description : Option String} {fault : Fault} {node : Node}

/-- From a node that is a reference, aliases lead to one without a shape. -/
def LeadsNowhere (document : Document) (node : Node) : Prop :=
  ∃ aliases last target list definition, document.Chain node aliases last ∧ last.shape = .reference target list ∧
    document.get? target = some definition ∧ definition.isAlias = true ∧ definition.shape = .unmapped

/-- The failures of a reference. None of them names a type around it. -/
theorem settle_eq_error (hnode : node.shape = .reference target list)
    (h : document.settle field required passed description target list = .error fault) :
    (∃ target, fault = .unresolvedReference field target) ∨ (∃ chain, fault = .cyclicReference chain) ∨
      fault = .unmappable field none ∧ document.LeadsNowhere node := by
  fun_induction settle document field required passed description target list generalizing node with
  | case1 passed description target list hnone =>
    cases h
    exact Or.inl ⟨target, rfl⟩
  | case2 passed description target list definition hget halias hmem =>
    cases h
    exact Or.inr (Or.inl ⟨_, rfl⟩)
  | case3 | case6 => cases h
  | case4 passed description target list definition hget halias hfree next list' hshape _ ih =>
    refine (ih hshape h).imp_right fun hcases => hcases.imp_right fun hfails => ⟨hfails.1, ?_⟩
    obtain ⟨-, aliases, last, end_, list₂, shapeless, hchain, hlast⟩ := hfails
    exact ⟨target :: aliases, last, end_, list₂, shapeless, .through hnode hget halias hchain, hlast⟩
  | case5 passed description target list definition hget halias hfree hscalar hreference =>
    cases h
    refine Or.inr (Or.inr ⟨rfl, [], node, target, list, definition, .here, hnode, hget, halias, ?_⟩)
    rcases Node.shape_of_isAlias halias with ⟨s, hs⟩ | ⟨next, list', hr⟩ | hunmapped
    · exact absurd hs (hscalar s)
    · exact absurd hr (hreference next list')
    · exact hunmapped

end Document

/-! ### Reports of failure -/

namespace Converter

/-- Take a definition, and suppose that converting it reports a missing node or one without a shape. The node at which
it stops lies in a composite, maybe inside arrays of one of its properties, or else in arrays of the definition only. If
it is missing or has no shape itself, the report names what holds it, which is the composite around it exactly if the
node is a property of that composite. If it is a reference, then to aliases of which the last has no shape, and the
report names nothing. -/
theorem within_of_convert (converter : Converter) (name : String) (slot : Option Node) (required : List String)
    (walk : Walk) (fault : Fault) (field : String) (within : Option TypePath)
    (h : ((converter.convert name slot none required).run.run walk).1 = .error fault)
    (hfault : fault = .malformedNode field within ∨ fault = .unmappable field within) :
    let root : Place := ⟨⟨name, []⟩, slot, required.contains name⟩
    ∃ place, root.Inline place ∧ converter.Stops root.tree fault place ∧ field = place.path.lastName ∧
      ((∃ composite x k, root.Inline composite ∧ composite.Encloses x k place) ∨ ∃ k, root.Nested k place) ∧
      ((place.slot = none ∨ ∃ node, place.slot = some node ∧ node.shape = .unmapped) ∧
          root.HeldBy place (within.map TypePath.joined) ∧
          (∀ (composite : Place) (x : String) (k : Nat), composite.Encloses x k place →
            (within.map TypePath.joined = some composite.path.joined ↔ k = 0)) ∨
        ∃ node target list, place.slot = some node ∧ node.shape = .reference target list ∧
          converter.document.LeadsNowhere node ∧ within = none) := by
  intro root
  obtain ⟨place, hstops⟩ := exists_stops_of_convert h (by rcases hfault with rfl | rfl <;> exact nofun)
  have hinline : root.Inline place := Place.mem_tree_iff.mp hstops.mem
  have hheld : root.HeldBy place (place.path.parent?.map TypePath.joined) := Place.heldBy_parent
  have hnames (composite : Place) (x : String) (k : Nat) (hencloses : composite.Encloses x k place) :
      place.path.parent?.map TypePath.joined = some composite.path.joined ↔ k = 0 :=
    hheld.eq_joined_iff hencloses
  refine ⟨place, hinline, hstops, ?_⟩
  rcases hstops.cases with ⟨hslot, hcause⟩ | ⟨node, hslot, ⟨hshape, hcause⟩ | ⟨target, list, hshape, hsettle⟩⟩
  · rcases hfault with rfl | rfl <;> cases hcause
    exact ⟨rfl, hinline.encloses_or_nested, Or.inl ⟨Or.inl hslot, hheld, hnames⟩⟩
  · rcases hfault with rfl | rfl <;> cases hcause
    exact ⟨rfl, hinline.encloses_or_nested, Or.inl ⟨Or.inr ⟨node, hslot, hshape⟩, hheld, hnames⟩⟩
  · rcases Document.settle_eq_error hshape hsettle with ⟨_, hcause⟩ | ⟨_, hcause⟩ | ⟨hcause, hnowhere⟩
    all_goals rcases hfault with rfl | rfl <;> cases hcause
    exact ⟨rfl, hinline.encloses_or_nested, Or.inr ⟨node, target, list, hslot, hshape, hnowhere, rfl⟩⟩

/-! ### Nodes without a shape behind an alias, in an array and in arrays only -/

def shapeless : SoundNode := Node.ofParts { type := some "unknown" }

def stack (items : SoundNode) : SoundNode := Node.ofParts { type := some "array", items := some items }

/-- A composite whose only property is this node. -/
def trunk (x : String) (node : SoundNode) : SoundNode :=
  Node.ofParts { type := some "object", properties := some (Definitions.empty.put x (some node)) }

def trunks : Converter where
  document := ⟨Definitions.empty
    |>.put "Shapeless" (some shapeless)
    |>.put "Lidded" (some (trunk "lid" (pointer "Shapeless" false none)))
    |>.put "Packed" (some (trunk "sheets" (stack shapeless)))
    |>.put "Loose" (some (stack (stack shapeless)))⟩
  root := "Trunk"

theorem ending_lidded : ((trunks.convert "Lidded" (trunks.document.get? "Lidded") none []).run.run {}).1 =
    .error (.unmappable "lid" none) := by cbv

theorem ending_packed : ((trunks.convert "Packed" (trunks.document.get? "Packed") none []).run.run {}).1 =
    .error (.unmappable "sheets" (some ⟨"Packed", ["sheets"]⟩)) := by cbv

theorem ending_loose : ((trunks.convert "Loose" (trunks.document.get? "Loose") none []).run.run {}).1 =
    .error (.unmappable "Loose" (some ⟨"Loose", ["Loose"]⟩)) := by cbv

def lidded : Place := ⟨⟨"Lidded", []⟩, some (trunk "lid" (pointer "Shapeless" false none)).val, false⟩

def lid : Place := ⟨⟨"Lidded", ["lid"]⟩, some (pointer "Shapeless" false none).val, false⟩

def packed : Place := ⟨⟨"Packed", []⟩, some (trunk "sheets" (stack shapeless)).val, false⟩

def sheet : Place := ⟨⟨"Packed", ["sheets", "sheets"]⟩, some shapeless.val, false⟩

def loose : Place := ⟨⟨"Loose", []⟩, some (stack (stack shapeless)).val, false⟩

def looseSheet : Place := ⟨⟨"Loose", ["Loose", "Loose"]⟩, some shapeless.val, false⟩

theorem encloses_lid : lidded.Encloses "lid" 0 lid :=
  ⟨_, _, _, _, rfl, rfl, List.mem_singleton_self _, .here⟩

theorem encloses_sheet : packed.Encloses "sheets" 1 sheet :=
  ⟨_, _, _, _, rfl, rfl, List.mem_singleton_self _, Place.Nested.here.items rfl rfl⟩

theorem nested_looseSheet : loose.Nested 2 looseSheet := (Place.Nested.here.items rfl rfl).items rfl rfl

/-- A report need not name the innermost composite around the node that fails: behind an alias it names nothing, in an
array it names the array, and that also where there is no composite. -/
theorem exists_within_other_than_composite :
    (((trunks.convert "Lidded" (trunks.document.get? "Lidded") none []).run.run {}).1 =
        .error (.unmappable "lid" none) ∧
      lidded.Encloses "lid" 0 lid ∧ trunks.field lid = .error (.unmappable "lid" none) ∧
      (none : Option TypePath).map TypePath.joined ≠ some lidded.path.joined) ∧
    (((trunks.convert "Packed" (trunks.document.get? "Packed") none []).run.run {}).1 =
        .error (.unmappable "sheets" (some ⟨"Packed", ["sheets"]⟩)) ∧
      packed.Encloses "sheets" 1 sheet ∧ trunks.field sheet = .error (.unmappable "sheets" (some ⟨"Packed", ["sheets"]⟩)) ∧
      (some ⟨"Packed", ["sheets"]⟩ : Option TypePath).map TypePath.joined ≠ some packed.path.joined) ∧
    ((trunks.convert "Loose" (trunks.document.get? "Loose") none []).run.run {}).1 =
        .error (.unmappable "Loose" (some ⟨"Loose", ["Loose"]⟩)) ∧
      loose.Nested 2 looseSheet ∧ trunks.field looseSheet = .error (.unmappable "Loose" (some ⟨"Loose", ["Loose"]⟩)) ∧
      (some ⟨"Loose", ["Loose"]⟩ : Option TypePath).map TypePath.joined ≠ none := by
  refine ⟨⟨ending_lidded, encloses_lid, ?_, by decide⟩, ⟨ending_packed, encloses_sheet, ?_, by decide⟩, ending_loose,
    nested_looseSheet, ?_, by decide⟩
  · rw [field_of_some rfl]
    cbv
  · rw [field_of_some rfl]
    rfl
  · rw [field_of_some rfl]
    rfl

/-- The report on the sheets names the array in which they are, below the composite that holds it. -/
theorem within_of_convert_packed :
    ((trunks.convert "Packed" (trunks.document.get? "Packed") none []).run.run {}).1 =
      .error (.unmappable "sheets" (some ⟨"Packed", ["sheets"]⟩)) ∧
    ∃ place, packed.Inline place ∧ place.path.lastName = "sheets" ∧
      (place.slot = none ∨ ∃ node, place.slot = some node ∧ node.shape = .unmapped) ∧
      packed.HeldBy place (some "Packed_sheets") := by
  obtain ⟨place, hinline, -, hfield, -, ⟨hslot, hheld, -⟩ | ⟨_, _, _, -, -, -, hwithin⟩⟩ :=
    within_of_convert trunks "Packed" (trunks.document.get? "Packed") [] {} _ _ _ ending_packed (Or.inr rfl)
  · exact ⟨ending_packed, place, hinline, hfield.symm, hslot, hheld⟩
  · cases hwithin

end Converter
end SchemaSdl
