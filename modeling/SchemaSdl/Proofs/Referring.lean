import SchemaSdl.Proofs.Nesting

/-! What references bind to. A property that is a reference names the definition it leads to, by that definition's
bare name. If the definition is selected and is a type, the name is bound to it. If not, nothing keeps a nested type
elsewhere from flattening to the same name, and then the name is bound to that one. -/

namespace SchemaSdl

/-- A reference to the first name comes to the definition of the second, which is no alias: at once, or along aliases
that refer to each other. -/
inductive Document.Refers (document : Document) : String → String → Prop
  | named {name : String} {node : Node} (hnode : document.get? name = some node) (h : node.isAlias = false) :
      Refers document name name
  | through {target next name : String} {node : Node} {list : Bool} (hnode : document.get? target = some node)
      (h : node.isAlias = true) (hs : node.shape = .reference next list) (hnext : Refers document next name) :
      Refers document target name

theorem Document.settle_of_refers {document : Document} {field target name : String} {required list : Bool}
    {passed : List String} {description : Option String} {result : Field} (h : document.Refers target name)
    (hsettle : document.settle field required passed description target list = .ok result) :
    result.label = .named name ∨ result.label = .list (.named name) := by
  induction h generalizing passed description list with
  | named hnode h =>
    rw [settle_of_some hnode, if_neg (by simp [h])] at hsettle
    cases hsettle
    cases list
    · exact Or.inl rfl
    · exact Or.inr rfl
  | @through target next name node list' hnode h hs hnext ih =>
    rw [settle_of_some hnode, if_pos h] at hsettle
    split at hsettle
    · cases hsettle
    · rw [hs] at hsettle
      exact ih hsettle

theorem Label.bracketed_list {k : Nat} {label : Label} : bracketed k (.list label) = bracketed (k + 1) label := by
  induction k with
  | zero => rfl
  | succ k ih =>
    rw [bracketed, ih]
    rfl

namespace Pass
variable {pass : Pass} {selector : Selector} {registry : Registry} {outer entry : Entry} {interface : Bool}
  {fields : Members Field} {node inner core definition : Node} {required list : Bool}
  {properties : Members (Option Node)} {names : List String} {x target name : String} {k : Nat}

/-- A property that is a reference inside some number of arrays names the definition it leads to. -/
theorem exists_label_of_refers (h : pass.registry selector = .ok registry) (houter : outer ∈ registry.entries)
    (hbody : outer.body = .composite interface fields)
    (hplace : pass.Reaches selector ⟨outer.path, some node, required⟩) (hshape : node.shape = .composite properties names)
    (hx : (x, some inner) ∈ properties) (hwraps : inner.Wraps k core) (hcore : core.shape = .reference target list)
    (hrefers : pass.document.Refers target name) :
    ∃ field brackets, fields.get? x = some field ∧ field.label = .bracketed brackets (.named name) := by
  obtain ⟨child, hchild, hlower⟩ := lower_of_wraps hshape hx hwraps outer.path
  have hreached := hplace.inline ((Place.Inline.step .root hchild).trans (Place.mem_tree_iff.mp hlower))
  obtain ⟨result, hresult⟩ := exists_field h hreached
  obtain ⟨field, hfield, hlabel, -⟩ := Converter.field_of_wraps hwraps hresult
  have hget := get?_of_registry h houter hbody hplace hshape hx hfield
  rw [Converter.field_of_some rfl, hcore] at hresult
  rcases Document.settle_of_refers hrefers hresult with hnamed | hlisted
  · exact ⟨field, k, hget, by rw [hlabel, hnamed]⟩
  · exact ⟨field, k + 1, hget, by rw [hlabel, hlisted, Label.bracketed_list]⟩

/-- Take a composite of a pass and a property of it that is a reference, inside arrays or not, to a definition that is
no alias. The field of the property names that definition. If the definition is selected and is an enumeration or a
composite, the registry has its type under that name. If it is skipped, or is itself a reference or an array, it has no
type, and what the registry may have under its name is a nested type that flattens to it. -/
theorem reference_binds (pass : Pass) (selector : Selector) (registry : Registry)
    (h : pass.registry selector = .ok registry) (outer : Entry) (interface : Bool) (fields : Members Field)
    (houter : outer ∈ registry.entries) (hbody : outer.body = .composite interface fields) (node : Node)
    (required : Bool) (properties : Members (Option Node)) (names : List String)
    (hplace : pass.Reaches selector ⟨outer.path, some node, required⟩) (hshape : node.shape = .composite properties names)
    (x : String) (inner core : Node) (k : Nat) (target name : String) (list : Bool) (definition : Node)
    (hx : (x, some inner) ∈ properties) (hwraps : inner.Wraps k core) (hcore : core.shape = .reference target list)
    (hrefers : pass.document.Refers target name) (hdefinition : pass.document.get? name = some definition) :
    (∃ field brackets, fields.get? x = some field ∧ field.label = .bracketed brackets (.named name)) ∧
    (selector.selects name = .ok true ∧ definition.shape.declaresType = true → ∃ entry,
      registry.get? name = some entry ∧ entry.path = ⟨name, []⟩ ∧
        pass.converter.Declares ⟨⟨name, []⟩, some definition, false⟩ entry) ∧
    (¬(selector.selects name = .ok true ∧ definition.shape.declaresType = true) → ∀ entry,
      registry.get? name = some entry → entry.path.below ≠ [] ∧ entry.path.joined = name) := by
  refine ⟨exists_label_of_refers h houter hbody hplace hshape hx hwraps hcore hrefers, ?_, ?_⟩
  · rintro ⟨hselects, hdeclares⟩
    obtain ⟨entry, hentry, htype, hdeclared⟩ := exists_entry h (reaches_definition hdefinition hselects) hdeclares
    have hpath : entry.path = ⟨name, []⟩ := Converter.path_of_typeAt? htype
    refine ⟨entry, (get?_eq_some_iff h).mpr ⟨hentry, ?_⟩, hpath, hdeclared⟩
    rw [Entry.key, hpath]
    rfl
  · intro hnot entry hget
    obtain ⟨hentry, hkey⟩ := (get?_eq_some_iff h).mp hget
    refine ⟨fun hbelow => hnot ((exists_path_iff h hdefinition).mp ⟨entry, hentry, ?_⟩), hkey⟩
    obtain ⟨⟨root, below⟩, description, required, body⟩ := entry
    obtain rfl : below = [] := hbelow
    obtain rfl : root = name := hkey
    rfl

/-! ### References to a skipped definition, to an array and to a type -/

def referring (name : String) : SoundNode := Node.ofParts { reference := some ("#/definitions/" ++ name) }

def holder : SoundNode := Node.ofParts
  { type := some "object",
    properties := some (Definitions.empty
      |>.put "a" (some (Node.ofParts { values := some ["on"] }))
      |>.put "b" (some (Node.ofParts { values := some ["off"] }))
      |>.put "skipped" (some (referring "Holder_a"))
      |>.put "array" (some (referring "Holder_b"))
      |>.put "type" (some (referring "Alias"))) }

def kind : SoundNode := Node.ofParts { values := some ["x", "y"] }

def holders : Pass where
  document := ⟨Definitions.empty
    |>.put "Holder" (some holder)
    |>.put "Holder_a" (some (Node.ofParts { type := some "object", properties := some Definitions.empty }))
    |>.put "Holder_b" (some (Node.ofParts
      { type := some "array", items := some (Node.ofParts { type := some "string" }) }))
    |>.put "Alias" (some (referring "Kind"))
    |>.put "Kind" (some kind)⟩
  root := "Base"
  template := none
  root_ne := by decide

/-- All definitions but one. -/
def holdersSelector : Selector := Selector.ofPredicates none (some (· = "Holder_a"))

def holderFields : Members Field :=
  [("a", ⟨.named "Holder_a", none, false⟩), ("b", ⟨.named "Holder_b", none, false⟩),
    ("skipped", ⟨.named "Holder_a", none, false⟩), ("array", ⟨.named "Holder_b", none, false⟩),
    ("type", ⟨.named "Kind", none, false⟩)]

def holderType : Entry := ⟨⟨"Holder", []⟩, none, false, .composite false holderFields⟩

def holderTypes : Registry :=
  ⟨[⟨⟨"Holder", ["a"]⟩, none, false, .enum ["on"]⟩, ⟨⟨"Holder", ["b"]⟩, none, false, .enum ["off"]⟩, holderType,
    ⟨⟨"Kind", []⟩, none, false, .enum ["x", "y"]⟩]⟩

theorem registry_holders : holders.registry holdersSelector = .ok holderTypes := by cbv

theorem reaches_holder : holders.Reaches holdersSelector ⟨⟨"Holder", []⟩, some holder.val, false⟩ :=
  ⟨("Holder", some holder.val), by simp [holders, Definitions.put, Definitions.empty, Members.put], rfl, .root⟩

theorem refers_kind : holders.document.Refers "Alias" "Kind" := by
  have hshape : (referring "Kind").val.shape = .reference "Kind" false := by cbv
  exact .through rfl rfl hshape (.named rfl rfl)

/-- A reference may be bound to a nested type that flattens to its name: where the definition of that name is skipped,
and where it is selected but is an array. -/
theorem exists_captured_reference :
    holders.registry holdersSelector = .ok holderTypes ∧ holderType ∈ holderTypes.entries ∧
    holderType.body = .composite false holderFields ∧
    holders.Reaches holdersSelector ⟨⟨"Holder", []⟩, some holder.val, false⟩ ∧
    (∃ properties, holder.val.shape = .composite properties [] ∧
      ("skipped", some (referring "Holder_a").val) ∈ properties ∧
      ("array", some (referring "Holder_b").val) ∈ properties) ∧
    ((referring "Holder_a").val.shape = .reference "Holder_a" false ∧ holders.document.Refers "Holder_a" "Holder_a" ∧
      holdersSelector.selects "Holder_a" = .ok false ∧
      holderFields.get? "skipped" = some ⟨.named "Holder_a", none, false⟩ ∧
      ¬∀ entry, holderTypes.get? "Holder_a" = some entry → entry.path = ⟨"Holder_a", []⟩) ∧
    ((referring "Holder_b").val.shape = .reference "Holder_b" false ∧ holders.document.Refers "Holder_b" "Holder_b" ∧
      holdersSelector.selects "Holder_b" = .ok true ∧
      holderFields.get? "array" = some ⟨.named "Holder_b", none, false⟩ ∧
      ¬∀ entry, holderTypes.get? "Holder_b" = some entry → entry.path = ⟨"Holder_b", []⟩) := by
  refine ⟨registry_holders, by simp [holderTypes], rfl, reaches_holder, ?_, ⟨by cbv, .named rfl rfl, rfl, rfl, ?_⟩,
    ⟨by cbv, .named rfl rfl, rfl, rfl, ?_⟩⟩
  · exact ⟨_, rfl, by simp [Definitions.put, Definitions.empty, Members.put],
      by simp [Definitions.put, Definitions.empty, Members.put]⟩
  · intro hbound
    exact absurd (hbound _ rfl) (by decide)
  · intro hbound
    exact absurd (hbound _ rfl) (by decide)

/-- The reference to a type that is selected is bound to it, through an alias. -/
theorem reference_binds_kind :
    holders.registry holdersSelector = .ok holderTypes ∧ holders.document.Refers "Alias" "Kind" ∧
    holders.document.get? "Kind" = some kind.val ∧ holdersSelector.selects "Kind" = .ok true ∧
    (∃ field brackets, holderFields.get? "type" = some field ∧ field.label = .bracketed brackets (.named "Kind")) ∧
    ∃ entry, holderTypes.get? "Kind" = some entry ∧ entry.path = ⟨"Kind", []⟩ := by
  have hshape : (referring "Alias").val.shape = .reference "Alias" false := by cbv
  obtain ⟨hlabel, hbound, -⟩ := reference_binds holders holdersSelector holderTypes registry_holders holderType false
    holderFields (by simp [holderTypes]) rfl holder.val false _ [] reaches_holder rfl "type" (referring "Alias").val
    (referring "Alias").val 0 "Alias" "Kind" false kind.val
    (by simp [Definitions.put, Definitions.empty, Members.put]) .core hshape refers_kind rfl
  obtain ⟨entry, hentry, hpath, -⟩ := hbound ⟨rfl, rfl⟩
  exact ⟨registry_holders, refers_kind, rfl, rfl, hlabel, entry, hentry, hpath⟩

end Pass
end SchemaSdl
