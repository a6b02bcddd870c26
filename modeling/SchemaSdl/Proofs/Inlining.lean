import Mathlib.Data.List.Perm.Subperm
import SchemaSdl.Proofs.Survey

/-! Conversion with the aliases being inlined in its state, and with a limit to how many are inlined inside one
another. An alias joins them before it is inlined and leaves them after that, also after a failure. Those being inlined
are always distinct aliases of the document, so with a limit that is no lower than the number of aliases nothing is cut
off, and all goes as in a conversion. -/

namespace SchemaSdl

/-! ### Descents -/

/-- A visit to a node, and the aliases being inlined at the beginning of it, outermost first. -/
structure Visit where
  node : Node
  inlining : List String

/-- What a conversion has brought about, the aliases being inlined, and the visits made so far. -/
structure Descent where
  walk : Walk
  inlining : List String := []
  visits : List Visit := []

/-- Why a descent fails. -/
inductive Stop where
  | fault (fault : Fault)
  /-- More aliases would be inlined inside one another than the limit allows. -/
  | tooDeep

abbrev Descending := ExceptT Stop (StateM Descent)

namespace Descending
variable {α β : Type}

/-- Does what a conversion does. -/
def doing (c : Conversion α) : Descending α := ExceptT.mk fun descent =>
  ((c.run.run descent.walk).1.mapError .fault, { descent with walk := (c.run.run descent.walk).2 })

def begins (node : Node) : Descending Unit :=
  modifyThe Descent fun descent => { descent with visits := descent.visits ++ [⟨node, descent.inlining⟩] }

/-- Goes on with an alias added to those being inlined, and takes away the last of them when that has ended. -/
def inside (target : String) (c : Descending α) : Descending α := ExceptT.mk fun descent =>
  let ending := c.run.run { descent with inlining := descent.inlining ++ [target] }
  (ending.1, { ending.2 with inlining := ending.2.inlining.dropLast })

end Descending

/-- How the definition of an alias is visited: for a field of this name, with these names required. -/
abbrev Inliner := String → Node → List String → Descending Fragment

namespace Converter
open Descending

/-- Converts a reference. An alias is inlined unless it is being inlined already. -/
def referWith (converter : Converter) (inliner : Inliner) (name : String) (description : Option String)
    (target : String) (list required : Bool) : Descending Fragment :=
  match converter.document.get? target with
  | none => throw (.fault (.unresolvedReference name target))
  | some definition =>
    if definition.isAlias then do
      let descent ← getThe Descent
      if target ∈ descent.inlining then throw (.fault (.cyclicReference (descent.inlining ++ [target])))
      else inside target (inliner name definition (if required then [name] else []))
    else
      let label := Label.named target
      return ⟨name, ⟨if list then .list label else label, written? description <|> written? definition.description,
        required⟩, none⟩

mutual

/-- Converts what is declared under a name, with the names that its holder requires. -/
def visitWith (converter : Converter) (inliner : Inliner) (name : String) (slot : Option Node)
    (parent : Option TypePath) (required : List String) : Descending Fragment :=
  match slot with
  | none => throw (.fault (.malformedNode name parent))
  | some node => do
    let path := TypePath.nested parent name
    let isRequired := required.contains name
    begins node
    doing (Conversion.note (.classifying name path))
    match h : node.shape with
    | .enum values =>
      doing (Conversion.register ⟨path, node.description, isRequired, .enum (values.map sanitized)⟩)
      return ⟨name, ⟨.named path.joined, node.description, isRequired⟩, some path⟩
    | .scalar scalar => return ⟨name, ⟨.scalar scalar, node.description, isRequired⟩, none⟩
    | .reference target list => converter.referWith inliner name node.description target list isRequired
    | .composite properties names =>
      have := Node.sizeOf_lt_of_shape_eq_composite h
      let fields ← converter.visitPropertiesWith inliner path names properties
      doing (Conversion.register
        ⟨path, node.description, isRequired, .composite (path.joined = converter.root) (filled fields)⟩)
      return ⟨name, ⟨.named path.joined, node.description, isRequired⟩, some path⟩
    | .inlineArray items =>
      have := Node.sizeOf_lt_of_shape_eq_inlineArray h
      let item ← converter.visitWith inliner name (some items) (some path) []
      return ⟨name, ⟨.list item.field.label, node.description, false⟩, none⟩
    | .unmapped => throw (.fault (.unmappable name parent))
termination_by sizeOf slot

def visitPropertiesWith (converter : Converter) (inliner : Inliner) (path : TypePath) (required : List String)
    (properties : Members (Option Node)) : Descending (Members Field) :=
  match properties with
  | [] => return []
  | (name, slot) :: rest => do
    let fragment ← converter.visitWith inliner name slot (some path) required
    let fields ← converter.visitPropertiesWith inliner path required rest
    return (fragment.name, fragment.field) :: fields
termination_by sizeOf properties

end

/-- Visits the definitions of aliases, no more of them inside one another than a limit allows. -/
def inlinerWithin (converter : Converter) : Nat → Inliner
  | 0 => fun _ _ _ => throw .tooDeep
  | limit + 1 => fun name definition required =>
    converter.visitWith (converter.inlinerWithin limit) name (some definition) none required

/-- Converts what is declared under a name, inlining no more aliases inside one another than a limit allows. -/
def visitWithin (converter : Converter) (limit : Nat) : String → Option Node → Option TypePath → List String →
    Descending Fragment :=
  converter.visitWith (converter.inlinerWithin limit)

end Converter

namespace Converter
open Descending
variable {converter : Converter} {inliner : Inliner}

theorem visitWith_of_some (name : String) (node : Node) (parent : Option TypePath) (required : List String) :
    converter.visitWith inliner name (some node) parent required = (do
      let path := TypePath.nested parent name
      begins node
      doing (Conversion.note (.classifying name path))
      match node.shape with
      | .enum values =>
        doing (Conversion.register
          ⟨path, node.description, required.contains name, .enum (values.map sanitized)⟩)
        return ⟨name, ⟨.named path.joined, node.description, required.contains name⟩, some path⟩
      | .scalar scalar => return ⟨name, ⟨.scalar scalar, node.description, required.contains name⟩, none⟩
      | .reference target list =>
        converter.referWith inliner name node.description target list (required.contains name)
      | .composite properties names =>
        let fields ← converter.visitPropertiesWith inliner path names properties
        doing (Conversion.register
          ⟨path, node.description, required.contains name, .composite (path.joined = converter.root) (filled fields)⟩)
        return ⟨name, ⟨.named path.joined, node.description, required.contains name⟩, some path⟩
      | .inlineArray items =>
        let item ← converter.visitWith inliner name (some items) (some path) []
        return ⟨name, ⟨.list item.field.label, node.description, false⟩, none⟩
      | .unmapped => throw (.fault (.unmappable name parent))) := by
  rw [visitWith]
  refine congrArg _ (funext fun _ => congrArg _ (funext fun _ => ?_))
  split <;> rename_i h <;> simp only [h]

end Converter

/-! ### The aliases after a visit -/

namespace Descending
variable {α β : Type} {c : Descending α} {k : α → Descending β} {stop : Stop}

theorem run_bind (descent : Descent) : (c >>= k).run.run descent =
    match c.run.run descent with
    | (.ok a, descent) => (k a).run.run descent
    | (.error stop, descent) => (.error stop, descent) := by
  change (match c.run.run descent with | (a, descent) => (ExceptT.bindCont k a).run descent) = _
  rcases c.run.run descent with ⟨_ | _, _⟩ <;> rfl

/-- However it ends, the same aliases are being inlined after it as before. -/
def Restores (c : Descending α) : Prop := ∀ descent, (c.run.run descent).2.inlining = descent.inlining

theorem restores_pure (a : α) : Restores (pure a) := fun _ => rfl

theorem restores_throw : Restores (throw stop : Descending α) := fun _ => rfl

theorem restores_get : Restores (getThe Descent) := fun _ => rfl

theorem restores_doing (c : Conversion α) : Restores (doing c) := fun _ => rfl

theorem restores_begins (node : Node) : Restores (begins node) := fun _ => rfl

theorem Restores.bind (hc : Restores c) (hk : ∀ a, Restores (k a)) : Restores (c >>= k) := by
  intro descent
  have h := hc descent
  rw [run_bind]
  rcases hrun : c.run.run descent with ⟨stop | a, after⟩ <;> rw [hrun] at h
  · exact h
  · exact (hk a after).trans h

theorem Restores.inside (hc : Restores c) (target : String) : Restores (inside target c) := by
  intro descent
  have h := hc { descent with inlining := descent.inlining ++ [target] }
  change List.dropLast (c.run.run { descent with inlining := descent.inlining ++ [target] }).2.inlining = _
  rw [h, List.dropLast_concat]

end Descending

namespace Converter
open Descending
variable {converter : Converter} {inliner : Inliner}

theorem referWith_restores (hinliner : ∀ name definition required, Restores (inliner name definition required))
    {name target : String} {description : Option String} {list required : Bool} :
    Restores (converter.referWith inliner name description target list required) := by
  rw [referWith]
  split
  · exact restores_throw
  · split
    · refine restores_get.bind fun descent => ?_
      split
      · exact restores_throw
      · exact (hinliner _ _ _).inside target
    · exact restores_pure _

theorem visitPropertiesWith_restores {path : TypePath} {names : List String} {properties : Members (Option Node)}
    (ih : ∀ p ∈ properties, Restores (converter.visitWith inliner p.1 p.2 (some path) names)) :
    Restores (converter.visitPropertiesWith inliner path names properties) := by
  induction properties with
  | nil =>
    rw [visitPropertiesWith]
    exact restores_pure _
  | cons p rest ihrest =>
    obtain ⟨hfirst, hrest⟩ := List.forall_mem_cons.mp ih
    rw [visitPropertiesWith]
    exact hfirst.bind fun fragment => (ihrest hrest).bind fun fields => restores_pure _

/-- If inlining leaves the aliases being inlined as they were, so does every visit. -/
theorem visitWith_restores (hinliner : ∀ name definition required, Restores (inliner name definition required))
    {name : String} {slot : Option Node} {parent : Option TypePath} {required : List String} :
    Restores (converter.visitWith inliner name slot parent required) := by
  cases slot with
  | none =>
    rw [visitWith]
    exact restores_throw
  | some node =>
    induction node using Node.shape_induction generalizing name parent required with
    | step node ihproperties ihitems =>
      rw [visitWith_of_some]
      refine (restores_begins node).bind fun _ => (restores_doing _).bind fun _ => ?_
      cases h : node.shape with
      | enum values => exact (restores_doing _).bind fun _ => restores_pure _
      | scalar s => exact restores_pure _
      | reference target list => exact referWith_restores hinliner
      | composite properties names =>
        refine (visitPropertiesWith_restores fun p hp => ?_).bind fun fields =>
          (restores_doing _).bind fun _ => restores_pure _
        obtain ⟨x, _ | inner⟩ := p
        · rw [visitWith]
          exact restores_throw
        · exact ihproperties properties names h x inner hp
      | inlineArray items => exact Restores.bind (ihitems items h) fun item => restores_pure _
      | unmapped => exact restores_throw

theorem inlinerWithin_restores {limit : Nat} {name : String} {definition : Node} {required : List String} :
    Restores (converter.inlinerWithin limit name definition required) := by
  induction limit generalizing name definition required with
  | zero => exact restores_throw
  | succ limit ih => exact visitWith_restores fun _ _ _ => ih

/-- Whatever the limit, and whether a visit succeeds or fails, the same aliases are being inlined after it as before. -/
theorem visitWithin_restores {limit : Nat} {name : String} {slot : Option Node} {parent : Option TypePath}
    {required : List String} : Restores (converter.visitWithin limit name slot parent required) :=
  visitWith_restores fun _ _ _ => inlinerWithin_restores

end Converter

/-! ### Descents beside conversions -/

namespace Document

/-- The definitions that are aliases. -/
def aliases (document : Document) : List String :=
  document.names.filter fun name => (document.get? name).any Node.isAlias

/-- Aliases that may be being inlined at one time: no two are the same, and each is one of the document. -/
structure Inlines (document : Document) (inlining : List String) : Prop where
  distinct : inlining.Nodup
  aliases : ∀ name ∈ inlining, ∃ definition, document.get? name = some definition ∧ definition.isAlias = true

variable {document : Document} {inlining : List String} {target : String} {definition : Node}

theorem inlines_nil : document.Inlines [] := ⟨List.nodup_nil, nofun⟩

theorem Inlines.concat (h : document.Inlines inlining) (hget : document.get? target = some definition)
    (halias : definition.isAlias = true) (hfree : target ∉ inlining) : document.Inlines (inlining ++ [target]) where
  distinct := h.distinct.append (List.nodup_singleton target) (List.disjoint_singleton.mpr hfree)
  aliases := by
    intro name hname
    rcases List.mem_append.mp hname with hname | hname
    · exact h.aliases name hname
    · rw [List.mem_singleton.mp hname]
      exact ⟨definition, hget, halias⟩

theorem Inlines.length_le (h : document.Inlines inlining) : inlining.length ≤ document.aliases.length := by
  refine (h.distinct.subperm fun name hname => ?_).length_le
  obtain ⟨definition, hget, halias⟩ := h.aliases name hname
  refine List.mem_filter.mpr ⟨mem_names_of_get?_eq_some hget, ?_⟩
  rw [hget]
  exact halias

theorem Inlines.length_lt (h : document.Inlines inlining) (hget : document.get? target = some definition)
    (halias : definition.isAlias = true) (hfree : target ∉ inlining) : inlining.length < document.aliases.length := by
  have hmore := (h.concat hget halias hfree).length_le
  rwa [List.length_append, List.length_singleton] at hmore

/-- What following a reference does when it comes to an alias. -/
def followAlias (document : Document) (field : String) (required : Bool) (passed : List String) (definition : Node) :
    Conversion Field := do
  Conversion.note (.classifying field (.nested none field))
  match definition.shape with
  | .scalar scalar => return ⟨.scalar scalar, definition.description, required⟩
  | .reference next list => document.follow field required passed definition.description next list
  | _ => throw (.unmappable field none)

end Document

/-- What converts to a field converts to a fragment that has this field and registers nothing. -/
def Conversion.toFragment (name : String) (c : Conversion Field) : Conversion Fragment := do
  return ⟨name, ← c, none⟩

/-- A visit to any node while no alias is being inlined, or to an alias while others are. -/
structure Visit.Regular (document : Document) (visit : Visit) : Prop where
  inlines : document.Inlines visit.inlining
  isAlias : visit.inlining ≠ [] → visit.node.isAlias = true

namespace Descending
variable {α β : Type} {document : Document} {inlining : List String} {c : Descending α} {d : Conversion α}
  {k : α → Descending β} {l : α → Conversion β} {node : Node}

/-- Whenever these aliases are being inlined, the one does what the other does and makes regular visits only. It is
not cut off, and the same aliases are being inlined after it. -/
def Tracks (document : Document) (inlining : List String) (c : Descending α) (d : Conversion α) : Prop :=
  ∀ descent : Descent, descent.inlining = inlining → ∃ visits, (∀ visit ∈ visits, visit.Regular document) ∧
    c.run.run descent = ((d.run.run descent.walk).1.mapError .fault,
      ⟨(d.run.run descent.walk).2, inlining, descent.visits ++ visits⟩)

theorem tracks_doing (d : Conversion α) : Tracks document inlining (doing d) d := by
  rintro descent rfl
  refine ⟨[], nofun, ?_⟩
  rw [List.append_nil]
  rfl

theorem tracks_pure (a : α) : Tracks document inlining (pure a) (pure a) := tracks_doing (pure a)

theorem tracks_throw (fault : Fault) :
    Tracks document inlining (throw (.fault fault) : Descending α) (throw fault) := tracks_doing (throw fault)

theorem Tracks.bind (hc : Tracks document inlining c d) (hk : ∀ a, Tracks document inlining (k a) (l a)) :
    Tracks document inlining (c >>= k) (d >>= l) := by
  intro descent hdescent
  obtain ⟨visits, hvisits, hrun⟩ := hc descent hdescent
  rw [run_bind, hrun, Conversion.run_bind]
  rcases d.run.run descent.walk with ⟨fault | a, walk⟩
  · exact ⟨visits, hvisits, rfl⟩
  · obtain ⟨later, hlater, hrun⟩ := hk a ⟨walk, inlining, descent.visits ++ visits⟩ rfl
    refine ⟨visits ++ later, fun visit hvisit => ?_, ?_⟩
    · exact (List.mem_append.mp hvisit).elim (hvisits visit) (hlater visit)
    · rw [← List.append_assoc]
      exact hrun

theorem Tracks.begins_bind (hregular : Visit.Regular document ⟨node, inlining⟩) {k : Unit → Descending α}
    (hk : Tracks document inlining (k ()) d) : Tracks document inlining (begins node >>= k) d := by
  rintro descent rfl
  obtain ⟨later, hlater, hrun⟩ := hk ⟨descent.walk, descent.inlining, descent.visits ++ [⟨node, descent.inlining⟩]⟩ rfl
  refine ⟨⟨node, descent.inlining⟩ :: later, List.forall_mem_cons.mpr ⟨hregular, hlater⟩, ?_⟩
  rw [List.append_cons]
  exact hrun

theorem Tracks.get_bind {k : Descent → Descending α}
    (hk : ∀ descent : Descent, descent.inlining = inlining → Tracks document inlining (k descent) d) :
    Tracks document inlining (getThe Descent >>= k) d :=
  fun descent hdescent => hk descent hdescent descent hdescent

theorem Tracks.inside {target : String} (hc : Tracks document (inlining ++ [target]) c d) :
    Tracks document inlining (inside target c) d := by
  rintro descent rfl
  obtain ⟨visits, hvisits, hrun⟩ := hc { descent with inlining := descent.inlining ++ [target] } rfl
  refine ⟨visits, hvisits, ?_⟩
  change (_, _) = _
  rw [hrun]
  simp only [List.dropLast_concat]

end Descending

namespace Converter
open Descending
variable {converter : Converter} {inliner : Inliner} {inlining : List String} {name target : String}
  {description : Option String} {list required : Bool} {definition : Node}

/-- The names required of the holder of a field, told to the definition of an alias. -/
theorem contains_inherited : (if required then [name] else []).contains name = required := by
  cases required
  · rfl
  · exact List.contains_cons.trans (by simp)

theorem referWith_tracks
    (hinliner : ∀ definition, converter.document.get? target = some definition → definition.isAlias = true →
      target ∉ inlining → Tracks converter.document (inlining ++ [target])
        (inliner name definition (if required then [name] else []))
        (.toFragment name (converter.document.followAlias name required (inlining ++ [target]) definition))) :
    Tracks converter.document inlining (converter.referWith inliner name description target list required)
      (.toFragment name (converter.document.follow name required inlining description target list)) := by
  cases hget : converter.document.get? target with
  | none =>
    simp only [referWith, hget, Document.follow_of_none hget]
    exact tracks_throw _
  | some definition =>
    rw [Document.follow_of_some hget]
    simp only [referWith, hget]
    by_cases halias : definition.isAlias = true
    · rw [if_pos halias, if_pos halias]
      refine Tracks.get_bind fun descent hdescent => ?_
      rw [hdescent]
      by_cases hmem : target ∈ inlining
      · rw [if_pos hmem, if_pos hmem]
        exact tracks_throw _
      · rw [if_neg hmem, if_neg hmem]
        exact (hinliner definition hget halias hmem).inside
    · rw [if_neg halias, if_neg halias]
      exact tracks_pure _

/-- Visiting the definition of an alias is what following a reference does with it. -/
theorem visitWith_tracks_followAlias (halias : definition.isAlias = true)
    (hinlines : converter.document.Inlines inlining)
    (hrefer : ∀ next list, Tracks converter.document inlining
      (converter.referWith inliner name definition.description next list required)
      (.toFragment name (converter.document.follow name required inlining definition.description next list))) :
    Tracks converter.document inlining
      (converter.visitWith inliner name (some definition) none (if required then [name] else []))
      (.toFragment name (converter.document.followAlias name required inlining definition)) := by
  rw [visitWith_of_some, contains_inherited, Conversion.toFragment, Document.followAlias, bind_assoc]
  refine Tracks.begins_bind ⟨hinlines, fun _ => halias⟩ ((tracks_doing _).bind fun _ => ?_)
  rcases Node.shape_of_isAlias halias with ⟨s, hshape⟩ | ⟨next, list, hshape⟩ | hshape <;> rw [hshape]
  · exact tracks_pure _
  · exact hrefer next list
  · exact tracks_throw _

/-- As long as the limit allows for all aliases that are not being inlined, the definition of one of them is visited
as following a reference does it. -/
theorem inlinerWithin_tracks {limit : Nat} (hinlines : converter.document.Inlines inlining)
    (hlimit : converter.document.aliases.length ≤ limit + inlining.length)
    (hget : converter.document.get? target = some definition) (halias : definition.isAlias = true)
    (hfree : target ∉ inlining) :
    Tracks converter.document (inlining ++ [target])
      (converter.inlinerWithin limit name definition (if required then [name] else []))
      (.toFragment name (converter.document.followAlias name required (inlining ++ [target]) definition)) := by
  induction limit generalizing inlining target definition with
  | zero =>
    -- All aliases are being inlined, so there is none left to come to.
    have hlength := hinlines.length_lt hget halias hfree
    omega
  | succ limit ih =>
    have hmore := hinlines.concat hget halias hfree
    refine visitWith_tracks_followAlias halias hmore fun next list => ?_
    refine referWith_tracks fun after hafter hafterAlias hafterFree => ?_
    refine ih hmore ?_ hafter hafterAlias hafterFree
    rw [List.length_append, List.length_singleton]
    omega

section
variable {path : TypePath} {names : List String} {properties : Members (Option Node)}

theorem visitPropertiesWith_tracks
    (ih : ∀ x inner, (x, some inner) ∈ properties → Tracks converter.document []
      (converter.visitWith inliner x (some inner) (some path) names)
      (converter.visit x inner (some path) (names.contains x))) :
    Tracks converter.document [] (converter.visitPropertiesWith inliner path names properties)
      (converter.visitProperties path names properties) := by
  induction properties with
  | nil =>
    rw [visitPropertiesWith, visitProperties]
    exact tracks_pure _
  | cons p rest ihrest =>
    have hrest := ihrest fun x inner hmem => ih x inner (List.mem_cons_of_mem _ hmem)
    obtain ⟨x, _ | inner⟩ := p
    · rw [visitPropertiesWith, visitProperties, visitWith]
      exact tracks_throw _
    · rw [visitPropertiesWith, visitProperties]
      exact (ih x inner List.mem_cons_self).bind fun fragment => hrest.bind fun fields => tracks_pure _

end

theorem visitWith_tracks {slot : Option Node} {parent : Option TypePath} {required : List String}
    (hinliner : ∀ name required target definition, converter.document.get? target = some definition →
      definition.isAlias = true → Tracks converter.document [target]
        (inliner name definition (if required then [name] else []))
        (.toFragment name (converter.document.followAlias name required [target] definition))) :
    Tracks converter.document [] (converter.visitWith inliner name slot parent required)
      (converter.convert name slot parent required) := by
  cases slot with
  | none =>
    rw [visitWith, convert]
    exact tracks_throw _
  | some node =>
    induction node using Node.shape_induction generalizing name parent required with
    | step node ihproperties ihitems =>
      rw [visitWith_of_some, convert, visit_eq]
      refine Tracks.begins_bind ⟨Document.inlines_nil, absurd rfl⟩ ((tracks_doing _).bind fun _ => ?_)
      cases hshape : node.shape with
      | enum values => exact (tracks_doing _).bind fun _ => tracks_pure _
      | scalar s => exact tracks_pure _
      | reference target list =>
        exact referWith_tracks fun definition hget halias _ => hinliner _ _ target definition hget halias
      | composite properties names =>
        have hproperties : Tracks converter.document []
            (converter.visitPropertiesWith inliner (.nested parent name) names properties)
            (converter.visitProperties (.nested parent name) names properties) :=
          visitPropertiesWith_tracks fun x inner hmem => ihproperties properties names hshape x inner hmem
        exact hproperties.bind fun fields => (tracks_doing _).bind fun _ => tracks_pure _
      | inlineArray items => exact (ihitems items hshape).bind fun item => tracks_pure _
      | unmapped => exact tracks_throw _

/-- If the limit is no lower than the number of aliases, a visit to anything does what conversion does. -/
theorem visitWithin_tracks {limit : Nat} {slot : Option Node} {parent : Option TypePath} {required : List String}
    (hlimit : converter.document.aliases.length ≤ limit) :
    Tracks converter.document [] (converter.visitWithin limit name slot parent required)
      (converter.convert name slot parent required) := by
  refine visitWith_tracks fun name required target definition hget halias => ?_
  exact inlinerWithin_tracks Document.inlines_nil (by simpa using hlimit) hget halias List.not_mem_nil

/-- With one more than there are aliases as its limit, a descent comes to the end of the conversion, with what that
brings about, and makes regular visits only. -/
theorem visitWithin_regular {slot : Option Node} {parent : Option TypePath} {required : List String} (walk : Walk) :
    let conversion := (converter.convert name slot parent required).run.run walk
    let descent := (converter.visitWithin (converter.document.aliases.length + 1) name slot parent required).run.run
      { walk }
    descent.1 = conversion.1.mapError Stop.fault ∧ descent.2.walk = conversion.2 ∧
      ∀ visit ∈ descent.2.visits, visit.Regular converter.document := by
  intro conversion descent
  have htracks : Tracks converter.document []
      (converter.visitWithin (converter.document.aliases.length + 1) name slot parent required)
      (converter.convert name slot parent required) := visitWithin_tracks (Nat.le_succ _)
  obtain ⟨visits, hvisits, hrun⟩ := htracks { walk } rfl
  refine ⟨congrArg Prod.fst hrun, congrArg (fun ending => ending.2.walk) hrun, fun visit hvisit => ?_⟩
  have hmade : descent.2.visits = visits := congrArg (fun ending => ending.2.visits) hrun
  rw [hmade] at hvisit
  exact hvisits visit hvisit

/-- Take any document, anything that is converted, and whatever has been brought about before. A descent that is cut off
when more aliases are inlined inside one another than one more than there are is never cut off: it ends as conversion
does, with what conversion brings about. At every moment the aliases being inlined are distinct definitions that are
aliases, so they are no more than there are of those. -/
theorem visitWithin_eq_convert (converter : Converter) (name : String) (slot : Option Node) (parent : Option TypePath)
    (required : List String) (walk : Walk) :
    let conversion := (converter.convert name slot parent required).run.run walk
    let descent := (converter.visitWithin (converter.document.aliases.length + 1) name slot parent required).run.run
      { walk }
    descent.1 = conversion.1.mapError Stop.fault ∧
    descent.2.walk = conversion.2 ∧
    ∀ visit ∈ descent.2.visits,
      visit.inlining.Nodup ∧
      (∀ target ∈ visit.inlining, ∃ definition,
        converter.document.get? target = some definition ∧ definition.isAlias = true) ∧
      visit.inlining.length ≤ converter.document.aliases.length := by
  intro conversion descent
  obtain ⟨hending, hwalk, hvisits⟩ := visitWithin_regular walk
  refine ⟨hending, hwalk, fun visit hvisit => ?_⟩
  have hinlines := (hvisits visit hvisit).inlines
  exact ⟨hinlines.distinct, hinlines.aliases, hinlines.length_le⟩

end Converter
end SchemaSdl
