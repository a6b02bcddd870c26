import Mathlib
import SchemaSdl.Proofs.Rendering
import SchemaSdl.Proofs.Sessions

/-! What the text of an enumeration tells of the list it is made from: each value without its blanks and hyphens, as
often as it comes up, and nothing of their order. -/

namespace SchemaSdl
open Text

/-! ### Values in ascending order -/

section Ascending
variable {v w : List String}

theorem pairwise_ascending (v : List String) : (v.mergeSort fun a b => decide (a ≤ b)).Pairwise (· ≤ ·) :=
  List.pairwise_mergeSort' (· ≤ ·) v

theorem ascending_eq_iff_perm :
    (v.mergeSort fun a b => decide (a ≤ b)) = (w.mergeSort fun a b => decide (a ≤ b)) ↔ v.Perm w := by
  have hv := List.mergeSort_perm v fun a b => decide (a ≤ b)
  have hw := List.mergeSort_perm w fun a b => decide (a ≤ b)
  constructor
  · intro h
    exact hv.symm.trans (h ▸ hw)
  · intro h
    exact ((hv.trans h).trans hw.symm).eq_of_pairwise' (pairwise_ascending v) (pairwise_ascending w)

end Ascending

/-! ### Texts of enumerations -/

/-- What is left of a value without white space and hyphens: all its other characters, in their order. -/
def stripped (value : String) : String := String.ofList (value.toList.filter fun c => c ∉ whiteSpace ∧ c ≠ '-')

theorem sanitized_eq_stripped : sanitized = stripped := by
  funext value
  rw [sanitized, stripped]
  congr 2
  funext c
  simp [← isBlank_iff_mem]

/-- A value that is made from one of a list stands on one line, because line feeds are white space. -/
theorem plain_enum_stripped (values : List String) : (Body.enum (values.map stripped)).Plain := by
  intro value hvalue hfeed
  obtain ⟨written, -, rfl⟩ := List.mem_map.mp hvalue
  rw [stripped, String.toList_ofList, List.mem_filter] at hfeed
  exact absurd hfeed.2 (by decide)

namespace Entry
variable {values others : List String} {description : Option String} {path : TypePath} {required : Bool}

/-- The line that opens the declaration of an enumeration, below its description. -/
def enumHeader (description : Option String) (label : String) : String :=
  descriptionText description ++ "enum " ++ label ++ " \x7b"

/-- Under one name and description, enumerations have one text exactly if they have the same values. -/
theorem text_enum_eq_iff {entry other : Entry} (hentry : entry.body = .enum values) (hother : other.body = .enum others)
    (hdescription : entry.description = other.description) (hvalues : (Body.enum values).Plain)
    (hothers : (Body.enum others).Plain) (label : String) :
    entry.text label = other.text label ↔ values.Perm others := by
  have hkind : entry.kind = other.kind := by rw [kind, kind, hentry, hother]
  rw [← ascending_eq_iff_perm]
  constructor
  · intro h
    have hlist := congrArg String.toList h
    rw [text_toList, text_toList, hdescription, hkind, hentry, hother] at hlist
    simp only [List.append_cancel_left_eq, List.cons.injEq, true_and] at hlist
    obtain ⟨hshown, -⟩ := Body.enum_cancel hvalues hothers hlist
    exact Body.enum.inj hshown
  · intro h
    have hlines : (Body.enum values).lines = (Body.enum others).lines := by rw [Body.lines, Body.lines, h]
    rw [text, text, hdescription, hkind, hentry, hother, hlines]

/-- The text has a line for each of these values, in ascending order of code points, between the line that opens the
declaration and the one that closes it. Where there is no value, it has an empty line. -/
def Lists (entry : Entry) (label : String) (values : List String) : Prop :=
  ∃ lines : List String, lines.Perm values ∧ lines.Pairwise (· ≤ ·) ∧
    pieces '\n' (entry.text label) = pieces '\n' (enumHeader entry.description label) ++
      ((if lines = [] then [""] else lines.map ("  " ++ ·)) ++ ["\x7d"])

theorem lists_enum {entry : Entry} (hentry : entry.body = .enum values) (hvalues : (Body.enum values).Plain)
    (label : String) : entry.Lists label values := by
  refine ⟨values.mergeSort fun a b => decide (a ≤ b), List.mergeSort_perm _ _, pairwise_ascending values, ?_⟩
  have htext : (entry.text label).toList = (enumHeader entry.description label).toList ++ '\n' ::
      (['\n'].intercalate ((Body.enum values).lines.map String.toList) ++ '\n' :: ['\x7d']) := by
    simp [text_toList, enumHeader, hentry, kind, Kind.keyword]
  rw [pieces, htext, cut_append_cons, cut_append_cons, List.map_append, List.map_append, ← pieces, Body.lines]
  congr 2
  generalize hlines : (values.mergeSort fun a b => decide (a ≤ b)) = lines
  have hfeeds : ∀ value ∈ lines, '\n' ∉ value.toList := fun value hvalue =>
    hvalues value (List.mem_mergeSort.mp (hlines ▸ hvalue))
  by_cases hempty : lines = []
  · rw [if_pos hempty, hempty]
    rfl
  · rw [if_neg hempty, List.map_map, cut_intercalate]
    · rw [List.map_map]
      exact List.map_congr_left fun value _ => String.ofList_toList
    · rwa [ne_eq, List.map_eq_nil_iff]
    · simpa using hfeeds

end Entry

/-! ### Enumerations that conversion makes -/

namespace Converter
variable {converter : Converter} {name : String} {node : Node} {values : List String} {parent : Option TypePath}
  {required : List String} {walk : Walk} {entry : Entry}

/-- The type that converting a list of values adds. -/
def enumeration (name : String) (node : Node) (values : List String) (parent : Option TypePath)
    (required : List String) : Entry :=
  ⟨.nested parent name, node.description, required.contains name, .enum (values.map stripped)⟩

theorem convert_enum_registers (converter : Converter) (h : node.shape = .enum values) :
    (converter.convert name (some node) parent required).Registers [enumeration name node values parent required]
      (.ok ⟨name, ⟨.named (TypePath.nested parent name).joined, node.description, required.contains name⟩,
        some (.nested parent name)⟩) := by
  rw [convert, visit_eq, enumeration, ← sanitized_eq_stripped]
  refine Conversion.registers_note.bind ?_
  rw [h]
  exact Conversion.registers_register.bind Conversion.registers_pure

/-- The conversion succeeds and adds this one type. -/
def Adds (converter : Converter) (name : String) (node : Node) (parent : Option TypePath) (required : List String)
    (walk : Walk) (entry : Entry) : Prop :=
  let ending := (converter.convert name (some node) parent required).run.run walk
  (∃ fragment, ending.1 = .ok fragment) ∧ ending.2.registry = walk.registry.append [entry]

theorem adds_enumeration (h : node.shape = .enum values)
    (hfree : (TypePath.nested parent name).joined ∉ walk.registry.keys) :
    converter.Adds name node parent required walk (enumeration name node values parent required) := by
  have hfresh : walk.registry.Fresh [enumeration name node values parent required] :=
    Registry.fresh_cons.mpr ⟨hfree, Registry.fresh_nil⟩
  obtain ⟨hrun, hregistry⟩ := (convert_enum_registers converter h).run_of_fresh walk hfresh
  exact ⟨⟨_, hrun⟩, hregistry⟩

/-- Convert two lists of values, with one description, under one name and parent, wherever that name is free. Each
conversion adds a type that holds the values without white space and hyphens. Under any name, the texts of the two types
are the same exactly if these values are the same but for their order. Each text has a line for each such value, in
ascending order. -/
theorem enum_text_eq_iff_perm (converter other : Converter) (name : String) (parent : Option TypePath)
    (node more : Node) (values others : List String) (required demanded : List String) (walk next : Walk)
    (hnode : node.shape = .enum values) (hmore : more.shape = .enum others)
    (hdescription : node.description = more.description)
    (hwalk : (TypePath.nested parent name).joined ∉ walk.registry.keys)
    (hnext : (TypePath.nested parent name).joined ∉ next.registry.keys) :
    let first := enumeration name node values parent required
    let second := enumeration name more others parent demanded
    converter.Adds name node parent required walk first ∧ other.Adds name more parent demanded next second ∧
      ∀ label, (first.text label = second.text label ↔ (values.map stripped).Perm (others.map stripped)) ∧
        first.Lists label (values.map stripped) ∧ second.Lists label (others.map stripped) := by
  intro first second
  have hvalues := plain_enum_stripped values
  have hothers := plain_enum_stripped others
  refine ⟨adds_enumeration hnode hwalk, adds_enumeration hmore hnext, fun label => ⟨?_, ?_, ?_⟩⟩
  · exact Entry.text_enum_eq_iff rfl rfl hdescription hvalues hothers label
  · exact Entry.lists_enum rfl hvalues label
  · exact Entry.lists_enum rfl hothers label

/-! ### The same shades in another order, and no shade against an empty one -/

def shades (values : List String) : Node := (Node.ofParts { values := some values }).val

theorem shape_shades (values : List String) : (shades values).shape = .enum values := rfl

theorem enumeration_shades : enumeration name (shades values) values parent required =
    ⟨.nested parent name, none, required.contains name, .enum (values.map stripped)⟩ := rfl

def roofs : Converter := ⟨⟨Definitions.empty⟩, "Roof"⟩

def roofHue (required : Bool) (values : List String) : Entry := ⟨⟨"Roof", ["hue"]⟩, none, required, .enum values⟩

def bareHue (values : List String) : Entry := ⟨⟨"hue", []⟩, none, false, .enum values⟩

/-- Lists with the same values but for blanks, hyphens and order have the same text, with a line for each value. A list
without a value and one whose value is a hyphen have different texts. -/
theorem enum_text_eq_iff_perm_shades :
    let conversion := roofs.convert "hue" (some (shades ["dark red", "blue", "dark-red"])) (some ⟨"Roof", []⟩) []
    (conversion.run.run {}).2.registry = ⟨[roofHue false ["darkred", "blue", "darkred"]]⟩ ∧
    (roofs.Adds "hue" (shades ["dark red", "blue", "dark-red"]) (some ⟨"Roof", []⟩) [] {}
        (roofHue false ["darkred", "blue", "darkred"]) ∧
      roofs.Adds "hue" (shades ["darkred", "dark\nred", "blue"]) (some ⟨"Roof", []⟩) ["hue"] {}
        (roofHue true ["darkred", "darkred", "blue"]) ∧
      (roofHue false ["darkred", "blue", "darkred"]).text "Roof_hue" =
        (roofHue true ["darkred", "darkred", "blue"]).text "Roof_hue" ∧
      (roofHue false ["darkred", "blue", "darkred"]).text "Roof_hue" =
        "enum Roof_hue \x7b\n  blue\n  darkred\n  darkred\n\x7d") ∧
    roofs.Adds "hue" (shades []) none [] {} (bareHue []) ∧ roofs.Adds "hue" (shades ["-"]) none [] {} (bareHue [""]) ∧
      (bareHue []).text "hue" ≠ (bareHue [""]).text "hue" := by
  have hdashed : ["dark red", "blue", "dark-red"].map stripped = ["darkred", "blue", "darkred"] := by decide
  have hbroken : ["darkred", "dark\nred", "blue"].map stripped = ["darkred", "darkred", "blue"] := by decide
  have hhyphen : ["-"].map stripped = [""] := by decide
  refine ⟨by cbv, ?_, ?_⟩
  · obtain ⟨hfirst, hsecond, htexts⟩ := enum_text_eq_iff_perm roofs roofs "hue" (some ⟨"Roof", []⟩) _ _ _ _ [] ["hue"]
      {} {} (shape_shades ["dark red", "blue", "dark-red"]) (shape_shades ["darkred", "dark\nred", "blue"]) rfl
      (by decide) (by decide)
    obtain ⟨hiff, -, -⟩ := htexts "Roof_hue"
    rw [enumeration_shades, hdashed] at hfirst
    rw [enumeration_shades, hbroken] at hsecond
    rw [enumeration_shades, enumeration_shades, hdashed, hbroken] at hiff
    refine ⟨hfirst, hsecond, hiff.mpr (by decide), ?_⟩
    have hsorted : (["darkred", "blue", "darkred"].mergeSort fun a b => decide (a ≤ b)) =
        ["blue", "darkred", "darkred"] :=
      (ascending_eq_iff_perm.mpr (by decide)).trans (List.mergeSort_of_pairwise (by decide))
    rw [roofHue, Entry.text, Body.lines, hsorted]
    rfl
  · obtain ⟨hnone, hone, htexts⟩ := enum_text_eq_iff_perm roofs roofs "hue" none _ _ _ _ [] [] {} {}
      (shape_shades []) (shape_shades ["-"]) rfl (by decide) (by decide)
    obtain ⟨hiff, -, -⟩ := htexts "hue"
    rw [enumeration_shades, hhyphen] at hone
    rw [enumeration_shades, enumeration_shades, hhyphen] at hiff
    exact ⟨hnone, hone, mt hiff.mp (by decide)⟩

end Converter
end SchemaSdl
