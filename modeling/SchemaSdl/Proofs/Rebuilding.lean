import SchemaSdl.Schema.Shape

/-! Changes that go through a whole node: the same change at the node and at every node inside it, innermost first. -/

namespace SchemaSdl.Node
variable {f : Node → Node} {node : Node}

theorem sizeOf_inner_lt {properties : Members (Option Node)} {name : String} {inner : Node}
    (hproperties : node.properties = some properties) (h : (name, some inner) ∈ properties) :
    sizeOf inner < sizeOf node := by
  have hlt := sizeOf_properties_lt hproperties
  have hproperty := List.sizeOf_lt_of_mem h
  simp only [Prod.mk.sizeOf_spec, Option.some.sizeOf_spec] at hproperty
  omega

/-- What holds of a node when it holds of the nodes in its properties and items holds of all nodes. -/
@[elab_as_elim] theorem induction {P : Node → Prop}
    (step : ∀ node : Node,
      (∀ properties, node.properties = some properties → ∀ name inner, (name, some inner) ∈ properties → P inner) →
      (∀ inner, node.items = some inner → P inner) → P node) (node : Node) : P node :=
  step node (fun _ hproperties _ inner hmem =>
      have := sizeOf_inner_lt hproperties hmem
      induction step inner)
    fun inner hinner =>
      have := sizeOf_items_lt hinner
      induction step inner
termination_by sizeOf node

/-- A node made anew: first the nodes in its properties and items, then the node itself. -/
def rebuild (f : Node → Node) (node : Node) : Node :=
  f { node with
    properties := node.properties.attach.map fun properties =>
      properties.1.attach.map fun property => (property.1.1, property.1.2.attach.map fun inner => rebuild f inner.1)
    items := node.items.attach.map fun items => rebuild f items.1 }
termination_by sizeOf node
decreasing_by
  · obtain ⟨inner, hinner⟩ := inner
    obtain ⟨⟨name, slot⟩, hmem⟩ := property
    obtain rfl : slot = some inner := hinner
    exact sizeOf_inner_lt properties.2 hmem
  · exact sizeOf_items_lt items.2

theorem rebuild_eq (f : Node → Node) (node : Node) : node.rebuild f = f { node with
    properties := node.properties.map (·.map fun property => (property.1, property.2.map (rebuild f)))
    items := node.items.map (rebuild f) } := by
  have hproperties (properties : Members (Option Node)) :
      (properties.attach.map fun property => (property.1.1, property.1.2.map (rebuild f))) =
        properties.map fun property => (property.1, property.2.map (rebuild f)) := by
    rw [List.map_subtype (g := fun property => (property.1, property.2.map (rebuild f))) fun _ _ => rfl,
      List.unattach_attach]
  rw [rebuild]
  simp [hproperties]

/-- A change that keeps nodes sound keeps them sound all through. -/
theorem WellFormed.rebuild (hf : ∀ node : Node, node.WellFormed → (f node).WellFormed) (h : node.WellFormed) :
    (node.rebuild f).WellFormed := by
  induction h with
  | @intro node distinct slots items ihslots ihitems =>
    rw [rebuild_eq]
    refine hf _ (.intro ?_ ?_ ?_)
    · intro properties hproperties
      obtain ⟨old, hold, rfl⟩ := Option.map_eq_some_iff.mp hproperties
      rw [Members.NamesDistinct, Members.names, List.map_map]
      exact distinct old hold
    · intro properties hproperties name inner hmem
      obtain ⟨old, hold, rfl⟩ := Option.map_eq_some_iff.mp hproperties
      obtain ⟨⟨first, slot⟩, hproperty, heq⟩ := List.mem_map.mp hmem
      obtain ⟨rfl, hslot⟩ := Prod.mk.inj heq
      obtain ⟨child, rfl, rfl⟩ := Option.map_eq_some_iff.mp hslot
      exact ihslots old hold _ child hproperty
    · intro inner hinner
      obtain ⟨child, hchild, rfl⟩ := Option.map_eq_some_iff.mp hinner
      exact ihitems child hchild

end SchemaSdl.Node
