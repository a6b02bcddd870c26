import Mathlib
import SchemaSdl.Proofs.Corresponding

/-! What the root name is for. It chooses the keyword of the composite under that name, if there is one, and bears on
nothing else: passes over one document end alike under any two root names, and their texts differ in the keywords of
the blocks under these names at most. -/

namespace SchemaSdl

/-! ### Types under a root name -/

/-- A type as it is under a root name: the composite of that name is an interface, and no other type is. -/
def Entry.rooted (root : String) (entry : Entry) : Entry :=
  match entry.body with
  | .enum _ => entry
  | .composite _ fields => { entry with body := .composite (entry.key = root) fields }

theorem Entry.path_rooted (root : String) (entry : Entry) : (entry.rooted root).path = entry.path := by
  rw [rooted]
  split <;> rfl

theorem Entry.rooted_rooted (root other : String) (entry : Entry) :
    (entry.rooted other).rooted root = entry.rooted root := by
  obtain ⟨path, description, required, values | ⟨interface, fields⟩⟩ := entry <;> rfl

/-- Of two root names the later one counts. -/
theorem Registry.map_rooted_map (root other : String) (registry : Registry) :
    (registry.map (Entry.rooted other)).map (Entry.rooted root) = registry.map (Entry.rooted root) := by
  simp only [map, List.map_map]
  exact congrArg Registry.mk (List.map_congr_left fun entry _ => Entry.rooted_rooted root other entry)

/-- Just the composite under the root name is an interface. There is one at most. -/
structure Registry.RootedAt (root : String) (registry : Registry) : Prop where
  kind_iff : ∀ entry ∈ registry.entries,
    entry.kind = .interface ↔ (∃ interface fields, entry.body = .composite interface fields) ∧ entry.key = root
  length_le_one : (registry.entries.filter (·.kind = .interface)).length ≤ 1

theorem Entry.kind_rooted_iff {root : String} {entry : Entry} : (entry.rooted root).kind = .interface ↔
    (∃ interface fields, (entry.rooted root).body = .composite interface fields) ∧ (entry.rooted root).key = root := by
  rw [key, path_rooted, ← key]
  obtain ⟨path, description, required, values | ⟨interface, fields⟩⟩ := entry
  · simp [rooted, kind]
  · by_cases hroot : path.joined = root <;> simp [rooted, kind, key, hroot]

/-- Types of different names, as they are under a root name. -/
theorem Registry.rootedAt_of_map {root : String} {registry : Registry} (hkeys : registry.keys.Nodup)
    (h : registry.map (Entry.rooted root) = registry) : registry.RootedAt root := by
  have hrooted : ∀ entry ∈ registry.entries, ∃ old, Entry.rooted root old = entry := by
    intro entry hentry
    rw [← h] at hentry
    obtain ⟨old, -, hold⟩ := List.mem_map.mp hentry
    exact ⟨old, hold⟩
  have hkind : ∀ entry ∈ registry.entries,
      entry.kind = .interface ↔ (∃ interface fields, entry.body = .composite interface fields) ∧ entry.key = root := by
    intro entry hentry
    obtain ⟨old, rfl⟩ := hrooted entry hentry
    exact Entry.kind_rooted_iff
  refine ⟨hkind, ?_⟩
  -- All interfaces have one name, and no name occurs twice.
  have hnodup : ((registry.entries.filter (·.kind = .interface)).map Entry.key).Nodup :=
    hkeys.sublist (List.filter_sublist.map Entry.key)
  have hall : ∀ key ∈ (registry.entries.filter (·.kind = .interface)).map Entry.key, key = root := by
    intro key hkey
    obtain ⟨entry, hentry, rfl⟩ := List.mem_map.mp hkey
    obtain ⟨hentry, hinterface⟩ := List.mem_filter.mp hentry
    exact ((hkind entry hentry).mp (of_decide_eq_true hinterface)).2
  rw [List.eq_replicate_of_mem hall, List.nodup_replicate, List.length_map] at hnodup
  exact hnodup

/-! ### Conversion under two root names -/

namespace Converter
variable {document : Document} {root other : String}

theorem typeAt?_root (place : Place) : (⟨document, other⟩ : Converter).typeAt? place =
    ((⟨document, root⟩ : Converter).typeAt? place).map (Entry.rooted other) := by
  obtain ⟨path, _ | node, required⟩ := place
  · rfl
  · have hfields : (⟨document, other⟩ : Converter).fieldsOf = (⟨document, root⟩ : Converter).fieldsOf :=
      fieldsOf_congr fun _ => rfl
    simp only [typeAt?, Option.bind_some, hfields]
    cases node.shape <;> rfl

theorem corresponds_root (document : Document) (root other : String) :
    Corresponds ⟨document, root⟩ ⟨document, other⟩ (Place.onSlot id) id (Entry.rooted other) where
  children p := (List.map_id p.children).symm
  field_eq p := by
    rw [Except.map_id]
    exact field_congr (c := ⟨document, other⟩) (d := ⟨document, root⟩) (fun _ => rfl) p
  typeAt?_eq := typeAt?_root
  path_eq := Entry.path_rooted other

end Converter

/-! ### Texts -/

/-- Two blocks that are one, or that declare a type of one of these names and differ in the keyword. -/
inductive SameButKeyword (names : List String) : String → String → Prop
  | same (block : String) : SameButKeyword names block block
  | keyword {name : String} (hname : name ∈ names) (description : Option String) (body : String) (i j : Bool) :
      SameButKeyword names
        (Entry.descriptionText description ++ (if i then "interface" else "type") ++ " " ++ name ++ " \x7b\n" ++ body)
        (Entry.descriptionText description ++ (if j then "interface" else "type") ++ " " ++ name ++ " \x7b\n" ++ body)

theorem sameButKeyword_rooted {root other : String} {entry : Entry} (h : entry.rooted root = entry) :
    SameButKeyword [root, other] (entry.text entry.key) ((entry.rooted other).text (entry.rooted other).key) := by
  have hkey : (entry.rooted other).key = entry.key := by rw [Entry.key, Entry.path_rooted, Entry.key]
  rw [hkey]
  obtain ⟨path, description, required, values | ⟨interface, fields⟩⟩ := entry
  · exact .same _
  · have hinterface : decide (path.joined = root) = interface := (Body.composite.inj (congrArg Entry.body h)).1
    subst hinterface
    by_cases hname : path.joined = root ∨ path.joined = other
    · have hmem : path.joined ∈ [root, other] := by simpa using hname
      have htext (i : Bool) : Entry.text path.joined ⟨path, description, required, .composite i fields⟩ =
          Entry.descriptionText description ++ (if i then "interface" else "type") ++ " " ++ path.joined ++ " \x7b\n" ++
            ("\n".intercalate (Body.lines (.composite i fields)) ++ "\n\x7d") := by
        cases i <;> simp [Entry.text, Entry.kind, Kind.keyword, String.append_assoc]
      rw [Entry.key, Entry.rooted, htext, htext]
      exact .keyword hmem description _ _ _
    · have hflags : decide (path.joined = root) = decide (path.joined = other) := by
        obtain ⟨hroot, hother⟩ := not_or.mp hname
        rw [decide_eq_false hroot, decide_eq_false hother]
      rw [hflags]
      exact .same _

/-! ### Passes -/

namespace Pass
variable {p q : Pass}

theorem registry_rooted (hdocument : p.document = q.document) (selector : Selector) :
    q.registry selector = (p.registry selector).map (Registry.map (Entry.rooted q.root)) := by
  have hcorresponds : Converter.Corresponds p.converter q.converter (Place.onSlot id) id (Entry.rooted q.root) := by
    rw [converter, converter, ← hdocument]
    exact Converter.corresponds_root p.document p.root q.root
  exact registry_of_corresponds hcorresponds (by rw [hdocument]; exact (List.map_id _).symm)

/-- The text of a registry, by blocks. -/
theorem exists_text (p : Pass) : ∃ ending, ∀ registry, p.text registry = joinBlocks (blocks registry) ++ ending := by
  cases htemplate : p.template with
  | none => exact ⟨"", fun registry => by rw [text, htemplate, String.append_empty]⟩
  | some template => exact ⟨"\n" ++ template, fun registry => by simp only [text, htemplate, String.append_assoc]⟩

theorem sameButKeyword_blocks {root other : String} {registry : Registry}
    (h : registry.map (Entry.rooted root) = registry) :
    List.Forall₂ (SameButKeyword [root, other]) (blocks registry) (blocks (registry.map (Entry.rooted other))) := by
  rw [blocks, blocks, Registry.map, List.map_map, List.forall₂_map_left_iff, List.forall₂_map_right_iff,
    List.forall₂_same]
  have hall : registry.entries.map (Entry.rooted root) = registry.entries.map id := by
    rw [List.map_id]
    exact congrArg Registry.entries h
  intro entry hentry
  exact sameButKeyword_rooted (List.map_inj_left.mp hall entry hentry)

/-- Take two passes over one document, with one template and one selection of definitions by tests of any kind, but
with two root names. Either both fail with the same fault, or both succeed. Then the types of each are those of the
other as they are under its own root name: just the composite of that name is an interface, so there is one at most.
The texts are made of blocks that differ in the keyword at most, and only under one of the two names. -/
theorem root_chooses_keyword (p q : Pass) (hdocument : p.document = q.document) (htemplate : p.template = q.template)
    (selector : Selector) :
    (∃ fault, p.registry selector = .error fault ∧ q.registry selector = .error fault) ∨
    ∃ r s, p.registry selector = .ok r ∧ q.registry selector = .ok s ∧ r.keys = s.keys ∧
      s.entries = r.entries.map (Entry.rooted q.root) ∧ r.entries = s.entries.map (Entry.rooted p.root) ∧
      r.RootedAt p.root ∧ s.RootedAt q.root ∧
      ∃ ending, p.render selector = .ok (joinBlocks (blocks r) ++ ending) ∧
        q.render selector = .ok (joinBlocks (blocks s) ++ ending) ∧
        List.Forall₂ (SameButKeyword [p.root, q.root]) (blocks r) (blocks s) := by
  -- A pass is its own other under its own root name: its types are already as they are under that name.
  have hself := registry_rooted (p := p) (q := p) rfl selector
  have hother := registry_rooted (p := p) (q := q) hdocument selector
  cases hp : p.registry selector with
  | error fault =>
    rw [hp] at hother
    exact Or.inl ⟨fault, rfl, hother⟩
  | ok r =>
    rw [hp] at hself hother
    have hr : r.map (Entry.rooted p.root) = r := (Except.ok.inj hself).symm
    have hq : q.registry selector = .ok (r.map (Entry.rooted q.root)) := hother
    have hkeys : (r.map (Entry.rooted q.root)).keys = r.keys := Registry.keys_map (Entry.path_rooted q.root)
    have hs : (r.map (Entry.rooted q.root)).map (Entry.rooted q.root) = r.map (Entry.rooted q.root) :=
      r.map_rooted_map q.root q.root
    have hback : (r.map (Entry.rooted q.root)).map (Entry.rooted p.root) = r :=
      (r.map_rooted_map p.root q.root).trans hr
    obtain ⟨ending, htext⟩ := p.exists_text
    have htext' (registry : Registry) : q.text registry = joinBlocks (blocks registry) ++ ending := by
      rw [← htext, text, text, htemplate]
    refine Or.inr ⟨r, _, rfl, hq, hkeys.symm, rfl, congrArg Registry.entries hback.symm,
      Registry.rootedAt_of_map (nodup_keys hp) hr, Registry.rootedAt_of_map (nodup_keys hq) hs, ending, ?_, ?_,
      sameButKeyword_blocks hr⟩
    · rw [render, hp, ← htext]
      rfl
    · rw [render, hq, ← htext']
      rfl

/-- Two composites, one inside the other, under a root name. -/
def boxes (root : String) (h : root ≠ "") : Pass where
  document := ⟨Definitions.empty.put "Box" (some (Node.ofParts
    { type := some "object",
      properties := some (Definitions.empty.put "lid" (some (Node.ofParts
        { type := some "object",
          properties := some (Definitions.empty.put "size" (some (Node.ofParts { type := some "integer" }))) }))) }))⟩
  root := root
  template := some "scalar Date"
  root_ne := h

theorem root_chooses_keyword_boxes :
    (boxes "Box" (by decide)).document = (boxes "Box_lid" (by decide)).document ∧
    (boxes "Box" (by decide)).render {} = .ok
      "type Box_lid \x7b\n  size: Int\n\x7d\ninterface Box \x7b\n  lid: Box_lid\n\x7d\nscalar Date" ∧
    (boxes "Box_lid" (by decide)).render {} = .ok
      "interface Box_lid \x7b\n  size: Int\n\x7d\ntype Box \x7b\n  lid: Box_lid\n\x7d\nscalar Date" ∧
    ∃ r s, (boxes "Box" (by decide)).registry {} = .ok r ∧ (boxes "Box_lid" (by decide)).registry {} = .ok s ∧
      r.keys = ["Box_lid", "Box"] ∧ r.keys = s.keys ∧ r.RootedAt "Box" ∧ s.RootedAt "Box_lid" ∧
      List.Forall₂ (SameButKeyword ["Box", "Box_lid"]) (blocks r) (blocks s) := by
  have hbox : (boxes "Box" (by decide)).registry {} = .ok
      ⟨[⟨⟨"Box", ["lid"]⟩, none, false, .composite false [("size", ⟨.scalar .int, none, false⟩)]⟩,
        ⟨⟨"Box", []⟩, none, false, .composite true [("lid", ⟨.named "Box_lid", none, false⟩)]⟩]⟩ := by cbv
  rcases root_chooses_keyword (boxes "Box" (by decide)) (boxes "Box_lid" (by decide)) rfl rfl {} with
    ⟨fault, hfault, -⟩ | ⟨r, s, hr, hs, hkeys, -, -, hrooted, hrooted', -, -, -, hblocks⟩
  · rw [hbox] at hfault
    cases hfault
  · obtain rfl := Except.ok.inj (hbox.symm.trans hr)
    exact ⟨rfl, by cbv, by cbv, _, s, hr, hs, by decide, hkeys, hrooted, hrooted', hblocks⟩

end Pass
end SchemaSdl
