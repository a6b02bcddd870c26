import Mathlib
import SchemaSdl.Proofs.Rendering
import SchemaSdl.Proofs.Tokens

/-! How the text of a field is read. A description without quotes cannot end its own string: in a block nothing else
ends it, and in one line only an escape can take the closing quote away. But escapes and carriage returns are left in
the line, and where one of them is illegal the text has no tokens at all. -/

namespace SchemaSdl
open Lexical Text

/-! ### Descriptions without quotes -/

namespace Lexical
variable {text rest : List Char}

/-- Without quotes inside and with the end of the line behind it, a string is closed by the quote that is there for it,
or not at all. -/
theorem lineEnd_of_not_lineText (hquote : '"' ∉ text) (h : ¬LineText text) :
    lineEnd (text ++ '"' :: '\n' :: rest) = none := by
  rw [Option.eq_none_iff_forall_ne_some]
  rintro ⟨inner, after⟩ hread
  obtain ⟨heq, hinner⟩ := exists_of_lineEnd hread
  rcases List.append_eq_append_iff.mp heq with ⟨more, rfl, hmore⟩ | ⟨more, rfl, hmore⟩
  · cases more with
    | nil => exact h (by rwa [List.append_nil] at hinner)
    | cons x more =>
      -- The string would go on behind the quote, but there the line ends.
      have hrest : '\n' :: rest = more ++ '"' :: after := (List.cons.inj hmore).2
      cases more with
      | nil => exact absurd (List.cons.inj hrest).1 (by decide)
      | cons y more =>
        obtain ⟨rfl, -⟩ := List.cons.inj hrest
        exact hinner.feed_not_mem (by simp)
  · cases more with
    | nil => exact h (by rwa [List.append_nil])
    | cons x more =>
      obtain ⟨rfl, -⟩ := List.cons.inj hmore
      exact hquote (by simp)

end Lexical

/-! ### Fields -/

namespace Field
variable {field : Field} {name plain : String} {rest : List Char}

/-- The tokens of a field behind its description. -/
def tokens (name : String) (field : Field) : List Token :=
  .name name :: .mark ':' :: (field.label.tokens ++ if field.required then [.mark '!'] else [])

theorem tokens?_declaration (rest : List Char) (hname : IsIdentifier name) (hlabel : field.label.Identified)
    (hrest : ∀ x ∈ rest.head?, isWordChar x = false) :
    tokens? (' ' :: ' ' :: (name.toList ++ ':' :: ' ' ::
      (field.label.text.toList ++ ((if field.required then ['!'] else []) ++ rest)))) =
      (tokens? rest).map (field.tokens name ++ ·) := by
  have hbang : tokens? ((if field.required then ['!'] else []) ++ rest) =
      (tokens? rest).map ((if field.required then [.mark '!'] else []) ++ ·) := by
    cases field.required with
    | true => exact tokens?_mark (by decide)
    | false => exact Option.map_id'.symm
  have hend : ∀ x ∈ ((if field.required then ['!'] else []) ++ rest).head?, isWordChar x = false := by
    cases field.required with
    | true => rintro x ⟨⟩; decide
    | false => exact hrest
  rw [tokens?_cons_of_isIgnored (by decide), tokens?_cons_of_isIgnored (by decide),
    tokens?_identifier hname (by rintro x ⟨⟩; decide), tokens?_mark (by decide), tokens?_cons_of_isIgnored (by decide),
    Label.tokens?_text hlabel hend, hbang]
  simp only [Option.map_map, Function.comp_def, tokens, List.cons_append, List.append_assoc]

theorem tokens?_quotation_line (rest : List Char) (hquote : '"' ∉ plain.toList) (hfeed : '\n' ∉ plain.toList) :
    (LineText plain.toList →
      tokens? ((quotation (some plain)).toList ++ rest) = (tokens? rest).map (.line plain :: ·)) ∧
    (¬LineText plain.toList → tokens? ((quotation (some plain)).toList ++ rest) = none) := by
  have hread : tokens? ((quotation (some plain)).toList ++ rest) =
      (lineEnd (plain.toList ++ '"' :: '\n' :: rest)).bind fun read =>
        (tokens? read.2).map (.line (String.ofList read.1) :: ·) := by
    rw [quotation_of_line hfeed]
    simp only [List.cons_append, List.append_assoc, List.nil_append]
    rw [tokens?_cons_of_isIgnored (by decide), tokens?_cons_of_isIgnored (by decide),
      tokens?_line fun more => line_ne_block hquote]
  rw [hread]
  constructor
  · intro hline
    rw [lineEnd_of_lineText hline, Option.bind_some, String.ofList_toList, tokens?_cons_of_isIgnored (by decide)]
  · intro hline
    rw [lineEnd_of_not_lineText hquote hline, Option.bind_none]

theorem tokens?_quotation_block (hquote : '"' ∉ plain.toList) (hfeed : '\n' ∈ plain.toList) :
    tokens? ((quotation (some plain)).toList ++ rest) =
      (tokens? rest).map (.block ("\n  " ++ indented plain ++ "\n  ") :: ·) := by
  -- The closing quotes stand behind a blank, so none of them belongs to the description.
  have hinside : blockEnd ('\n' :: ' ' :: ' ' :: ((indented plain).toList ++ ['\n', ' '])) = none := by
    apply blockEnd_of_not_mem
    simp [quote_not_mem_indented hquote]
  have hclosed : blockEnd _ = some (_, '\n' :: rest) := blockEnd_append (c := ' ') (by decide) (by decide) hinside
  have hcontent : '\n' :: ' ' :: ' ' :: ((indented plain).toList ++ ['\n', ' ']) ++ [' '] =
      ("\n  " ++ indented plain ++ "\n  ").toList := by simp
  rw [hcontent] at hclosed
  simp only [List.cons_append, List.append_assoc, List.nil_append] at hclosed
  rw [quotation_of_block hfeed]
  simp only [List.cons_append, List.append_assoc, List.nil_append, closing]
  rw [tokens?_cons_of_isIgnored (by decide), tokens?_cons_of_isIgnored (by decide), tokens?_block, hclosed,
    Option.bind_some, tokens?_cons_of_isIgnored (by decide), String.ofList_toList]

theorem exists_declaration (hname : IsIdentifier name) (hlabel : field.label.Identified) :
    ∃ declaration, tokens? declaration = some (field.tokens name) ∧
      (field.text name).toList = (quotation field.shown.description).toList ++ declaration := by
  refine ⟨_, ?_, text_toList name field⟩
  have hdeclaration := tokens?_declaration [] hname hlabel nofun
  rwa [List.append_nil, tokens?_nil, Option.map_some, List.append_nil] at hdeclaration

theorem shown_description_of_written {written : String} (hwritten : written ∈ field.description) (hne : written ≠ "") :
    field.shown.description = some (unquoted written) := by
  rw [shown_description, written?_of_mem hwritten hne, Option.map_some]

theorem tokens?_text_eq_none (written : String) (hname : IsIdentifier name) (hlabel : field.label.Identified)
    (hwritten : written ∈ field.description) (hfeed : '\n' ∉ (unquoted written).toList)
    (hline : ¬LineText (unquoted written).toList) : tokens? (field.text name).toList = none := by
  have hne : written ≠ "" := by
    rintro rfl
    exact hline .nil
  obtain ⟨declaration, -, htext⟩ := exists_declaration hname hlabel
  obtain ⟨-, hnone⟩ := tokens?_quotation_line declaration (quote_not_mem_unquoted written) hfeed
  rw [htext, shown_description_of_written hwritten hne, hnone hline]

/-- Take a field whose name and label are made of identifiers. Without a description, or with an empty one, its tokens
are those of its declaration. With a description that is written in several lines, or in one that is legal as a string,
one string comes before them, with all that is written between the quotes. With any other description the text has no
tokens. So no part of a description is ever read outside its string, but there may be nothing that can be read. -/
theorem tokens_of_text (name : String) (field : Field) (hname : IsIdentifier name)
    (hlabel : field.label.Identified) :
    ((∀ written ∈ field.description, written = "") → tokens? (field.text name).toList = some (field.tokens name)) ∧
    ∀ written ∈ field.description, written ≠ "" →
      ('\n' ∈ (unquoted written).toList → tokens? (field.text name).toList =
        some (.block ("\n  " ++ indented (unquoted written) ++ "\n  ") :: field.tokens name)) ∧
      ('\n' ∉ (unquoted written).toList → LineText (unquoted written).toList →
        tokens? (field.text name).toList = some (.line (unquoted written) :: field.tokens name)) ∧
      ('\n' ∉ (unquoted written).toList → ¬LineText (unquoted written).toList →
        tokens? (field.text name).toList = none) := by
  obtain ⟨declaration, hdeclaration, htext⟩ := exists_declaration hname hlabel
  constructor
  · intro hempty
    have hnone : field.shown.description = none := by
      rw [shown_description, written?_eq_none_iff.mpr hempty, Option.map_none]
    rw [htext, hnone]
    exact hdeclaration
  · intro written hwritten hne
    have hquote := quote_not_mem_unquoted written
    refine ⟨fun hfeed => ?_, fun hfeed hline => ?_, tokens?_text_eq_none written hname hlabel hwritten⟩
    · rw [htext, shown_description_of_written hwritten hne, tokens?_quotation_block hquote hfeed, hdeclaration,
        Option.map_some]
    · obtain ⟨hread, -⟩ := tokens?_quotation_line declaration hquote hfeed
      rw [htext, shown_description_of_written hwritten hne, hread hline, hdeclaration, Option.map_some]

/-- A description that ends with a backslash, and one with a carriage return, leave nothing that can be read. -/
theorem exists_description_without_tokens :
    let path : Field := ⟨.scalar .string, some "C:\\", false⟩
    let lines : Field := ⟨.scalar .string, some "a\rb", false⟩
    IsIdentifier "x" ∧ path.label.Identified ∧ lines.label.Identified ∧
    path.text "x" = "  \"C:\\\"\n  x: String" ∧ tokens? (path.text "x").toList = none ∧
    lines.text "x" = "  \"a\rb\"\n  x: String" ∧ tokens? (lines.text "x").toList = none := by
  intro path lines
  have hname : IsIdentifier "x" := by decide
  refine ⟨hname, trivial, trivial, by cbv, ?_, by cbv, ?_⟩
  · exact tokens?_text_eq_none "C:\\" hname trivial rfl (by decide) (by decide)
  · exact tokens?_text_eq_none "a\rb" hname trivial rfl (by decide) (by decide)

/-- A description with quotes becomes one string, with or without the end of a line in it. -/
theorem tokens_of_text_quoted :
    IsIdentifier "b" ∧ (Label.list (.named "Bar")).Identified ∧
    tokens? (Field.text "b" ⟨.list (.named "Bar"), some "Say \"hi\"", true⟩).toList =
      some [.line "Say hi", .name "b", .mark ':', .mark '[', .name "Bar", .mark ']', .mark '!'] ∧
    tokens? (Field.text "b" ⟨.list (.named "Bar"), some "one\n\"\"\"two\\", false⟩).toList =
      some [.block "\n  one\n  two\\\n  ", .name "b", .mark ':', .mark '[', .name "Bar", .mark ']'] := by
  have hname : IsIdentifier "b" := by decide
  have hlabel : (Label.list (.named "Bar")).Identified := by decide
  refine ⟨hname, hlabel, ?_, ?_⟩
  · obtain ⟨-, hwritten⟩ := tokens_of_text "b" ⟨.list (.named "Bar"), some "Say \"hi\"", true⟩ hname hlabel
    obtain ⟨-, hline, -⟩ := hwritten _ rfl (by decide)
    exact hline (by decide) (by decide)
  · obtain ⟨-, hwritten⟩ := tokens_of_text "b" ⟨.list (.named "Bar"), some "one\n\"\"\"two\\", false⟩ hname hlabel
    obtain ⟨hblock, -, -⟩ := hwritten _ rfl (by decide)
    exact hblock (by decide)

end Field
end SchemaSdl
