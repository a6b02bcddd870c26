import Mathlib
import SchemaSdl.Proofs.Corresponding

/-! The order of definitions. A pass over all definitions registers one group of types for each of them, in their
order. Which group that is, and whether the pass succeeds, does not depend on the order. -/

namespace SchemaSdl

theorem Members.get?_perm {α : Type u} {m n : Members α} (h : m.Perm n) (hdistinct : m.NamesDistinct) (name : String) :
    m.get? name = n.get? name := by
  have hdistinct' : n.NamesDistinct := (h.map Prod.fst).nodup_iff.mp hdistinct
  have hmem {l : Members α} {value : α} (hget : l.get? name = some value) : (name, value) ∈ l := by
    obtain ⟨before, after, rfl, -⟩ := List.lookup_eq_some_iff.mp hget
    exact List.mem_append_right _ List.mem_cons_self
  refine Option.ext fun value => ⟨fun hget => ?_, fun hget => ?_⟩
  · exact get?_of_mem hdistinct' (h.mem_iff.mp (hmem hget))
  · exact get?_of_mem hdistinct (h.mem_iff.mpr (hmem hget))

theorem Converter.typeAt?_congr {c d : Converter} (hroot : c.root = d.root)
    (h : ∀ name, c.document.get? name = d.document.get? name) : c.typeAt? = d.typeAt? := by
  funext place
  rw [typeAt?, typeAt?, fieldsOf_congr h, hroot]

namespace Pass
open Selector
variable {p q : Pass} {r : Registry}

/-! ### One group for each definition -/

/-- The place of a definition. -/
def rootOf (member : String × Option Node) : Place := ⟨⟨member.1, []⟩, member.2, false⟩

/-- The types of the definition under a name. -/
def group (pass : Pass) (name : String) : List Entry :=
  match pass.document.definitions.members.get? name with
  | none => []
  | some slot => (rootOf (name, slot)).tree.filterMap pass.converter.typeAt?

theorem root_of_mem_group {pass : Pass} {name : String} {entry : Entry} (h : entry ∈ pass.group name) :
    entry.path.root = name := by
  rw [group] at h
  split at h
  · cases h
  · obtain ⟨place, hplace, htype⟩ := List.mem_filterMap.mp h
    rw [Converter.path_of_typeAt? htype]
    exact Place.root_of_mem_tree hplace

theorem places_none_none (pass : Pass) :
    pass.places none none = pass.document.definitions.members.flatMap fun member => (rootOf member).tree := by
  have hall : pass.roots none none = pass.document.definitions.members.map rootOf := by
    rw [roots, rootsOf]
    congr 1
    exact List.filter_eq_self.mpr fun _ _ => rfl
  rw [places, hall, List.flatMap_map]

theorem filterMap_typeAt?_eq (pass : Pass) :
    (pass.places none none).filterMap pass.converter.typeAt? = pass.document.names.flatMap pass.group := by
  rw [places_none_none, List.filterMap_flatMap, Document.names, Members.names, List.flatMap_map]
  refine List.flatMap_congr fun member hmember => ?_
  rw [group, Members.get?_of_mem pass.document.definitions.distinct hmember]

/-- A pass over all definitions succeeds if there is a field for every place and no two types have one name. Its types
are those of the definitions, in their order. -/
theorem registry_eq_ok_iff_groups : p.registry {} = .ok r ↔
    (∀ place ∈ p.places none none, ∃ field, p.converter.field place = .ok field) ∧
      ((p.document.names.flatMap p.group).map Entry.key).Nodup ∧ r = ⟨p.document.names.flatMap p.group⟩ := by
  have hall : p.registry (ofPredicates none none) = .ok r ↔ _ := registry_eq_ok_iff (conversion_registers p)
  refine hall.trans ?_
  rw [Converter.survey_eq_ok_iff, ← filterMap_typeAt?_eq]
  refine and_congr_right fun hfields => ?_
  rw [Converter.survey_of_ok (Converter.survey_eq_ok_iff.mpr hfields)]

/-! ### Definitions in another order -/

section Perm
variable (hperm : p.document.definitions.members.Perm q.document.definitions.members)
include hperm

theorem get?_of_perm (name : String) : p.document.get? name = q.document.get? name := by
  rw [Document.get?, Document.get?, Members.get?_perm hperm p.document.definitions.distinct]

theorem places_of_perm : (p.places none none).Perm (q.places none none) := by
  rw [places_none_none, places_none_none]
  exact hperm.flatMap_right _

theorem group_of_perm (hroot : p.root = q.root) : p.group = q.group := by
  have htypes : p.converter.typeAt? = q.converter.typeAt? := Converter.typeAt?_congr hroot (get?_of_perm hperm)
  funext name
  rw [group, group, Members.get?_perm hperm p.document.definitions.distinct, htypes]

theorem exists_registry_of_perm (hroot : p.root = q.root) (h : ∃ r, p.registry {} = .ok r) :
    ∃ s, q.registry {} = .ok s := by
  obtain ⟨r, hr⟩ := h
  obtain ⟨hfields, hnodup, -⟩ := registry_eq_ok_iff_groups.mp hr
  refine ⟨_, registry_eq_ok_iff_groups.mpr ⟨fun place hplace => ?_, ?_, rfl⟩⟩
  · obtain ⟨field, hfield⟩ := hfields place ((places_of_perm hperm).mem_iff.mpr hplace)
    exact ⟨field, (Converter.field_congr (get?_of_perm hperm) place).symm.trans hfield⟩
  · have hnames : p.document.names.Perm q.document.names := hperm.map Prod.fst
    rw [← group_of_perm hperm hroot]
    exact ((hnames.flatMap_right p.group).map Entry.key).nodup_iff.mp hnodup

end Perm

/-- Take two documents with the same definitions in different orders, and one root name. A pass over all definitions
succeeds on both or on neither. If it succeeds, the two registries have the same type under each name. Each is made of
one and the same group of types for every definition, which are those found under it, in the order of its document. -/
theorem registry_of_perm (p q : Pass) (hroot : p.root = q.root)
    (hperm : p.document.definitions.members.Perm q.document.definitions.members) :
    ((∃ r, p.registry {} = .ok r) ↔ ∃ s, q.registry {} = .ok s) ∧
    ∀ r s, p.registry {} = .ok r → q.registry {} = .ok s →
      (∀ key, r.get? key = s.get? key) ∧
      ∃ group : String → List Entry, (∀ name, ∀ entry ∈ group name, entry.path.root = name) ∧
        r.entries = p.document.names.flatMap group ∧ s.entries = q.document.names.flatMap group := by
  refine ⟨⟨exists_registry_of_perm hperm hroot, exists_registry_of_perm hperm.symm hroot.symm⟩, fun r s hr hs => ?_⟩
  obtain ⟨-, -, hentries⟩ := registry_eq_ok_iff_groups.mp hr
  obtain ⟨-, -, hentries'⟩ := registry_eq_ok_iff_groups.mp hs
  rw [← group_of_perm hperm hroot] at hentries'
  refine ⟨fun key => Option.ext fun entry => ?_, p.group, fun name entry => root_of_mem_group,
    congrArg Registry.entries hentries, congrArg Registry.entries hentries'⟩
  have hnames : p.document.names.Perm q.document.names := hperm.map Prod.fst
  rw [get?_eq_some_iff hr, get?_eq_some_iff hs, hentries, hentries', (hnames.flatMap_right p.group).mem_iff]

/-- Two definitions, of which one refers to the other, after each other in either order. -/
def shelves (first second : String × SoundNode) : Pass where
  document := ⟨Definitions.empty |>.put first.1 (some first.2) |>.put second.1 (some second.2)⟩
  root := "Shelf"
  template := none
  root_ne := by decide

def book : SoundNode := Node.ofParts
  { type := some "object",
    properties := some (Definitions.empty
      |>.put "author" (some (Node.ofParts { reference := some "#/definitions/Author" }))
      |>.put "form" (some (Node.ofParts { values := some ["paper", "file"] }))) }

def author : SoundNode := Node.ofParts
  { type := some "object",
    properties := some (Definitions.empty.put "name" (some (Node.ofParts { type := some "string" }))) }

theorem registry_of_perm_shelves :
    (shelves ("Book", book) ("Author", author)).document.definitions.members.Perm
      (shelves ("Author", author) ("Book", book)).document.definitions.members ∧
    ∃ r s, (shelves ("Book", book) ("Author", author)).registry {} = .ok r ∧
      (shelves ("Author", author) ("Book", book)).registry {} = .ok s ∧
      r.keys = ["Book_form", "Book", "Author"] ∧ s.keys = ["Author", "Book_form", "Book"] ∧
      ∀ key, r.get? key = s.get? key := by
  have hperm : (shelves ("Book", book) ("Author", author)).document.definitions.members.Perm
      (shelves ("Author", author) ("Book", book)).document.definitions.members := by
    simpa [shelves, Definitions.put, Definitions.empty, Members.put] using List.Perm.swap _ _ _
  obtain ⟨-, hmap⟩ := registry_of_perm (shelves ("Book", book) ("Author", author))
    (shelves ("Author", author) ("Book", book)) rfl hperm
  have hbook : (shelves ("Book", book) ("Author", author)).registry {} = .ok
      ⟨[⟨⟨"Book", ["form"]⟩, none, false, .enum ["paper", "file"]⟩,
        ⟨⟨"Book", []⟩, none, false, .composite false [("author", ⟨.named "Author", none, false⟩),
          ("form", ⟨.named "Book_form", none, false⟩)]⟩,
        ⟨⟨"Author", []⟩, none, false, .composite false [("name", ⟨.scalar .string, none, false⟩)]⟩]⟩ := by cbv
  have hauthor : (shelves ("Author", author) ("Book", book)).registry {} = .ok
      ⟨[⟨⟨"Author", []⟩, none, false, .composite false [("name", ⟨.scalar .string, none, false⟩)]⟩,
        ⟨⟨"Book", ["form"]⟩, none, false, .enum ["paper", "file"]⟩,
        ⟨⟨"Book", []⟩, none, false, .composite false [("author", ⟨.named "Author", none, false⟩),
          ("form", ⟨.named "Book_form", none, false⟩)]⟩]⟩ := by cbv
  obtain ⟨hget, -⟩ := hmap _ _ hbook hauthor
  exact ⟨hperm, _, _, hbook, hauthor, by decide, by decide, hget⟩

end Pass
end SchemaSdl
