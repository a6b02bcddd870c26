import Mathlib.Data.List.Nodup
import SchemaSdl.Conversion
import SchemaSdl.Proofs.Path

/-! The inline tree of a node: the nodes that conversion comes to through the properties of composites and
the items of arrays, never through references. Each stands at the path under which its type would be
registered. In a sound document no two of them stand at one path. -/

namespace SchemaSdl

/-! ### Nodes by their shape -/

namespace Node

theorem properties_of_shape_eq_composite {node : Node} {properties : Members (Option Node)} {required : List String}
    (h : node.shape = .composite properties required) :
    node.properties = some properties ∨ ∃ items, node.items = some items ∧ items.properties = some properties := by
  rw [structuralShape_of_shape (by simp [h]) (by simp [h]) (by simp [h])] at h
  simp only [structuralShape, arrayShape] at h
  split at h
  · split at h
    · cases h
      exact Or.inl ‹_›
    · cases h
  · split at h
    · split at h
      · split at h
        · cases h
          exact Or.inr ⟨_, ‹_›, ‹_›⟩
        · split at h <;> cases h
      · cases h
    · cases h

/-- The items of an array have no properties: an array whose items have them is a composite. -/
theorem items_properties_of_shape_eq_inlineArray {node items : Node} (h : node.shape = .inlineArray items) :
    node.items = some items ∧ items.properties = none := by
  rw [structuralShape_of_shape (by simp [h]) (by simp [h]) (by simp [h])] at h
  simp only [structuralShape, arrayShape] at h
  split at h
  · split at h <;> cases h
  · split at h
    · split at h
      · split at h
        · cases h
        · split at h
          · cases h
          · cases h
            exact ⟨‹_›, ‹_›⟩
      · cases h
    · cases h

theorem items_of_shape_eq_inlineArray {node items : Node} (h : node.shape = .inlineArray items) :
    node.items = some items :=
  (items_properties_of_shape_eq_inlineArray h).1

theorem WellFormed.of_composite {node : Node} {properties : Members (Option Node)} {required : List String}
    (hw : node.WellFormed) (h : node.shape = .composite properties required) :
    properties.NamesDistinct ∧ ∀ name inner, (name, some inner) ∈ properties → inner.WellFormed := by
  obtain ⟨distinct, slots, items⟩ := hw
  rcases properties_of_shape_eq_composite h with hp | ⟨inner, hi, hp⟩
  · exact ⟨distinct _ hp, slots _ hp⟩
  · obtain ⟨distinct, slots, -⟩ := items _ hi
    exact ⟨distinct _ hp, slots _ hp⟩

theorem WellFormed.of_inlineArray {node items : Node} (hw : node.WellFormed) (h : node.shape = .inlineArray items) :
    items.WellFormed := by
  obtain ⟨-, -, hitems⟩ := hw
  exact hitems _ (items_of_shape_eq_inlineArray h)

end Node

/-- What holds of a node when it holds of those one step down holds of all nodes. -/
@[elab_as_elim]
theorem Node.shape_induction {motive : Node → Prop} (node : Node)
    (step : ∀ node : Node,
      (∀ properties names, node.shape = .composite properties names →
        ∀ name inner, (name, some inner) ∈ properties → motive inner) →
      (∀ items, node.shape = .inlineArray items → motive items) → motive node) : motive node := by
  induction hn : sizeOf node using Nat.strongRecOn generalizing node with
  | _ n ih =>
    subst hn
    refine step node (fun properties names hshape name inner hmem => ih _ ?_ inner rfl)
      fun items hshape => ih _ (Node.sizeOf_lt_of_shape_eq_inlineArray hshape) items rfl
    have hnode := Node.sizeOf_lt_of_shape_eq_composite hshape
    have hproperty := List.sizeOf_lt_of_mem hmem
    simp only [Prod.mk.sizeOf_spec, Option.some.sizeOf_spec] at hproperty
    omega

/-! ### Places -/

/-- Where a node of an inline tree stands, and whether what holds it requires it. There may be no node. -/
structure Place where
  path : TypePath
  slot : Option Node
  required : Bool

/-- Whether a node of this shape becomes a type of its own. -/
def Shape.declaresType : Shape → Bool
  | .enum _ | .composite .. => true
  | _ => false

namespace Place

/-- The place of a property of a composite that stands at a path. -/
def property (path : TypePath) (names : List String) (property : String × Option Node) : Place :=
  ⟨path.child property.1, property.2, names.contains property.1⟩

/-- The place of the items of an array that stands at a path. They repeat its name. -/
def items (path : TypePath) (node : Node) : Place := ⟨path.child path.lastName, some node, false⟩

/-- The places one step down: the properties of a composite, or the items of an array. -/
def children (place : Place) : List Place :=
  match place.slot.map Node.shape with
  | some (.composite properties names) => properties.map (property place.path names)
  | some (.inlineArray node) => [items place.path node]
  | _ => []

def declaresType (place : Place) : Bool := place.slot.any (·.shape.declaresType)

/-- What stands at a place, if anything, is sound. -/
def Sound (place : Place) : Prop := ∀ node, place.slot = some node → node.WellFormed

theorem sound_of_map {path : TypePath} {slot : Option SoundNode} {required : Bool} :
    Sound ⟨path, slot.map Subtype.val, required⟩ := by
  rintro node hnode
  obtain ⟨sound, -, rfl⟩ := Option.map_eq_some_iff.mp hnode
  exact sound.property

/-! ### One step down -/

section Children
variable {path : TypePath} {required : Bool} {node : Node}

theorem children_of_composite {properties : Members (Option Node)} {names : List String}
    (h : node.shape = .composite properties names) :
    children ⟨path, some node, required⟩ = properties.map (property path names) := by
  simp [children, h]

theorem children_of_inlineArray {inner : Node} (h : node.shape = .inlineArray inner) :
    children ⟨path, some node, required⟩ = [items path inner] := by
  simp [children, h]

theorem mem_children {upper lower : Place} (h : lower ∈ upper.children) :
    (∃ node properties names p, upper.slot = some node ∧ node.shape = .composite properties names ∧ p ∈ properties ∧
      lower = property upper.path names p) ∨
    ∃ node inner, upper.slot = some node ∧ node.shape = .inlineArray inner ∧ lower = items upper.path inner := by
  obtain ⟨path, _ | node, required⟩ := upper
  · cases h
  · cases hs : node.shape with
    | composite properties names =>
      rw [children_of_composite hs] at h
      obtain ⟨p, hp, rfl⟩ := List.mem_map.1 h
      exact Or.inl ⟨node, properties, names, p, rfl, hs, hp, rfl⟩
    | inlineArray inner =>
      rw [children_of_inlineArray hs] at h
      exact Or.inr ⟨node, inner, rfl, hs, List.mem_singleton.1 h⟩
    | _ => simp [children, hs] at h

theorem sizeOf_slot_lt {upper lower : Place} (h : lower ∈ upper.children) : sizeOf lower.slot < sizeOf upper.slot := by
  rcases mem_children h with ⟨node, properties, names, p, hs, hshape, hp, rfl⟩ | ⟨node, inner, hs, hshape, rfl⟩
  · have hnode := Node.sizeOf_lt_of_shape_eq_composite hshape
    have hproperty := List.sizeOf_lt_of_mem hp
    rw [hs]
    cases p
    simp only [property, Prod.mk.sizeOf_spec, Option.some.sizeOf_spec] at hproperty ⊢
    omega
  · have hnode := Node.sizeOf_lt_of_shape_eq_inlineArray hshape
    rw [hs]
    simp only [items, Option.some.sizeOf_spec]
    omega

theorem Sound.child {upper lower : Place} (hs : upper.Sound) (h : lower ∈ upper.children) : lower.Sound := by
  rintro inner hinner
  rcases mem_children h with ⟨node, properties, names, ⟨name, slot⟩, hslot, hshape, hp, rfl⟩ |
      ⟨node, items, hslot, hshape, rfl⟩
  · obtain rfl : slot = some inner := hinner
    exact ((hs node hslot).of_composite hshape).2 name inner hp
  · obtain rfl : items = inner := Option.some.inj hinner
    exact (hs node hslot).of_inlineArray hshape

theorem child_path {upper lower : Place} (h : lower ∈ upper.children) :
    lower.path = upper.path.child lower.path.lastName := by
  rcases mem_children h with ⟨-, -, -, p, -, -, -, rfl⟩ | ⟨-, -, -, -, rfl⟩ <;> simp [property, items]

end Children

/-! ### The tree -/

/-- The places of the inline tree that begins at a place, each after those below it. -/
def tree (place : Place) : List Place := place.children.attach.flatMap (fun lower => tree lower.1) ++ [place]
termination_by sizeOf place.slot
decreasing_by exact sizeOf_slot_lt lower.2

theorem tree_eq (place : Place) : place.tree = place.children.flatMap tree ++ [place] := by
  rw [tree, List.flatMap_subtype (g := tree) fun _ _ => rfl, List.unattach_attach]

/-- Induction along the tree: a place after those one step down. -/
@[elab_as_elim]
theorem tree_induction {motive : Place → Prop} (place : Place)
    (step : ∀ place, (∀ lower ∈ place.children, motive lower) → motive place) : motive place := by
  induction hn : sizeOf place.slot using Nat.strongRecOn generalizing place with
  | _ n ih =>
    subst hn
    exact step place fun lower hlower => ih _ (sizeOf_slot_lt hlower) lower rfl

/-- The places to which steps down from a place lead. -/
inductive Inline (root : Place) : Place → Prop
  | root : Inline root root
  | step {upper lower : Place} (h : Inline root upper) (hlower : lower ∈ upper.children) : Inline root lower

theorem Inline.trans {r p q : Place} (h₁ : Inline r p) (h₂ : Inline p q) : Inline r q := by
  induction h₂ with
  | root => exact h₁
  | step _ hlower ih => exact .step ih hlower

theorem self_mem_tree (place : Place) : place ∈ place.tree := by
  rw [tree_eq]
  exact List.mem_append_right _ (List.mem_singleton_self _)

theorem mem_tree_child {root upper lower : Place} (h : upper ∈ root.tree) (hlower : lower ∈ upper.children) :
    lower ∈ root.tree := by
  induction root using tree_induction with
  | step root ih =>
    rw [tree_eq, List.mem_append] at h ⊢
    left
    rcases h with h | h
    · obtain ⟨child, hchild, h⟩ := List.mem_flatMap.1 h
      exact List.mem_flatMap.2 ⟨child, hchild, ih child hchild h⟩
    · obtain rfl := List.mem_singleton.1 h
      exact List.mem_flatMap.2 ⟨lower, hlower, self_mem_tree lower⟩

theorem mem_tree_iff {root place : Place} : place ∈ root.tree ↔ Inline root place := by
  constructor
  · intro h
    induction root using tree_induction with
    | step root ih =>
      rw [tree_eq, List.mem_append] at h
      rcases h with h | h
      · obtain ⟨child, hchild, h⟩ := List.mem_flatMap.1 h
        exact (Inline.step .root hchild).trans (ih child hchild h)
      · obtain rfl := List.mem_singleton.1 h
        exact .root
  · intro h
    induction h with
    | root => exact self_mem_tree root
    | step _ hlower ih => exact mem_tree_child ih hlower

/-! ### Paths in the tree -/

theorem prefix_of_mem_tree {root place : Place} (h : place ∈ root.tree) :
    root.path.segments <+: place.path.segments := by
  induction mem_tree_iff.1 h with
  | root => exact List.prefix_refl _
  | @step upper lower hi hlower ih =>
    rw [child_path hlower]
    exact (ih (mem_tree_iff.2 hi)).trans (TypePath.prefix_child _ _)

/-- All of a tree lies in the definition of its root. -/
theorem root_of_mem_tree {root place : Place} (h : place ∈ root.tree) : place.path.root = root.path.root := by
  obtain ⟨rest, hrest⟩ := prefix_of_mem_tree h
  exact (List.cons.inj hrest).1.symm

theorem Sound.nodup_children {place : Place} (hs : place.Sound) : (place.children.map path).Nodup := by
  obtain ⟨path, _ | node, required⟩ := place
  · exact List.nodup_nil
  · cases h : node.shape with
    | composite properties names =>
      rw [children_of_composite h, List.map_map]
      have hdistinct := ((hs node rfl).of_composite h).1.map (TypePath.child_injective path)
      rwa [Members.names, List.map_map] at hdistinct
    | inlineArray inner => simp [children_of_inlineArray h]
    | _ => simp [children, h]

/-- Trees that begin at different paths with as many names have no path in common. -/
theorem nodup_paths_flatMap {places : List Place} {n : Nat} (hlength : ∀ p ∈ places, p.path.segments.length = n)
    (hnodup : (places.map path).Nodup) (htrees : ∀ p ∈ places, (p.tree.map path).Nodup) :
    ((places.flatMap tree).map path).Nodup := by
  rw [List.map_flatMap]
  refine List.nodup_flatMap.2 ⟨htrees, ?_⟩
  -- A path in two of the trees would lie under both of their roots.
  refine (List.pairwise_map.1 hnodup).imp_of_mem fun {p q} hp hq hne path hpath hpath' => ?_
  obtain ⟨r, hr, rfl⟩ := List.mem_map.1 hpath
  obtain ⟨s, hs, heq⟩ := List.mem_map.1 hpath'
  refine hne (TypePath.eq_of_isPrefix (prefix_of_mem_tree hr) ?_ ((hlength p hp).trans (hlength q hq).symm))
  rw [← heq]
  exact prefix_of_mem_tree hs

/-- In the tree of a sound place no two places have one path. -/
theorem Sound.nodup_paths {root : Place} (hs : root.Sound) : (root.tree.map path).Nodup := by
  induction root using tree_induction with
  | step root ih =>
    rw [tree_eq, List.map_append]
    have hlength : ∀ lower ∈ root.children, lower.path.segments.length = root.path.segments.length + 1 := by
      intro lower hlower
      rw [child_path hlower, TypePath.length_segments_child]
    refine List.Nodup.append (nodup_paths_flatMap hlength hs.nodup_children fun lower hlower =>
      ih lower hlower (hs.child hlower)) (List.nodup_singleton _) fun p hp hroot => ?_
    obtain ⟨q, hq, rfl⟩ := List.mem_map.1 hp
    obtain ⟨lower, hlower, hq⟩ := List.mem_flatMap.1 hq
    have hunder := prefix_of_mem_tree hq
    rw [child_path hlower, show q.path = root.path from List.mem_singleton.1 hroot] at hunder
    exact TypePath.not_child_isPrefix _ _ hunder

/-- No two places in a tree have one path. -/
theorem Sound.eq_of_path {root p q : Place} (hs : root.Sound) (hp : root.Inline p) (hq : root.Inline q)
    (h : p.path = q.path) : p = q :=
  List.inj_on_of_nodup_map hs.nodup_paths (mem_tree_iff.mpr hp) (mem_tree_iff.mpr hq) h

end Place
end SchemaSdl
