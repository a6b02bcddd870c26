import Mathlib
import SchemaSdl.Proofs.Quoting

/-! How the text of a type is read. Its description stands in a block and keeps its quotes. It is one string unless
three quotes in a row end it, and then what stands behind them is read like any other text: any declaration can come
in that way. -/

namespace SchemaSdl
open Lexical Text

/-! ### What may stand in a block -/

namespace Lexical
variable {text inner rest more : List Char} {word : String}

/-- What may stand in a block: no three quotes in a row, other than those right behind a backslash. -/
inductive BlockText : List Char → Prop
  | nil : BlockText []
  | char {c : Char} {text : List Char} (hc : ¬['"', '"', '"'] <+: c :: text) (h : BlockText text) : BlockText (c :: text)
  | escape {text : List Char} (h : BlockText text) : BlockText ('\\' :: '"' :: '"' :: '"' :: text)

theorem not_blockText_quotes : ¬BlockText ('"' :: '"' :: '"' :: text) := by
  intro h
  cases h with
  | char hc => exact hc ⟨text, rfl⟩

theorem not_quotes_isPrefix {c : Char} (hquotes : ∀ more, c = '"' → text = '"' :: '"' :: more → False) :
    ¬['"', '"', '"'] <+: c :: text := by
  rintro ⟨more, hmore⟩
  obtain ⟨hc, htext⟩ := List.cons.inj hmore
  exact hquotes more hc.symm htext.symm

theorem BlockText.blockEnd_eq_none (h : BlockText text) : blockEnd text = none := by
  induction h with
  | nil => rfl
  | @char c text hc h ih =>
    rw [blockEnd.eq_4, ih]
    · rfl
    · rintro more rfl rfl
      exact hc ⟨more, rfl⟩
    · rintro more rfl rfl
      exact not_blockText_quotes h
  | escape h ih =>
    rw [blockEnd, ih]
    rfl

theorem blockText_of_blockEnd_eq_none (h : blockEnd text = none) : BlockText text := by
  fun_induction blockEnd text with
  | case1 => exact .nil
  | case2 => cases h
  | case3 after ih => exact .escape (ih (Option.map_eq_none_iff.mp h))
  | case4 c after hquotes hescape ih => exact .char (not_quotes_isPrefix hquotes) (ih (Option.map_eq_none_iff.mp h))

/-- A block has no end in such a text, and in no other. -/
theorem blockEnd_eq_none_iff : blockEnd text = none ↔ BlockText text :=
  ⟨blockText_of_blockEnd_eq_none, BlockText.blockEnd_eq_none⟩

instance : DecidablePred BlockText := fun _ => decidable_of_iff _ blockEnd_eq_none_iff

/-- A block ends at the first three quotes that may end it. -/
theorem blockText_of_blockEnd_eq_some (h : blockEnd text = some (inner, rest)) : BlockText (inner ++ ['"', '"']) := by
  fun_induction blockEnd text generalizing inner with
  | case1 => cases h
  | case2 after =>
    cases h
    exact blockEnd_eq_none_iff.mp (by decide)
  | case3 after ih =>
    obtain ⟨⟨inner', after'⟩, hread, heq⟩ := Option.map_eq_some_iff.mp h
    cases heq
    exact .escape (ih hread)
  | case4 c after hquotes hescape ih =>
    obtain ⟨⟨inner', after'⟩, hread, heq⟩ := Option.map_eq_some_iff.mp h
    cases heq
    refine .char (fun hopens => not_quotes_isPrefix hquotes (hopens.trans ?_)) (ih hread)
    rw [append_of_blockEnd hread]
    exact ⟨'"' :: after', by simp⟩

theorem exists_of_append_of_length_le (opening : List Char) {tail : List Char} (hlength : opening.length ≤ text.length)
    (h : text ++ more = opening ++ tail) : ∃ tail', text = opening ++ tail' := by
  have hopening : opening <+: text :=
    List.prefix_of_prefix_length_le ⟨tail, h.symm⟩ (List.prefix_append text more) hlength
  obtain ⟨tail', htail⟩ := hopening
  exact ⟨tail', htail.symm⟩

/-- Where a block ends does not depend on what follows its end. -/
theorem blockEnd_append_of_eq_some (h : blockEnd text = some (inner, rest)) :
    blockEnd (text ++ more) = some (inner, rest ++ more) := by
  fun_induction blockEnd text generalizing inner with
  | case1 => cases h
  | case2 after =>
    cases h
    rfl
  | case3 after ih =>
    obtain ⟨⟨inner', after'⟩, hread, heq⟩ := Option.map_eq_some_iff.mp h
    cases heq
    simp only [List.cons_append]
    rw [blockEnd, ih hread]
    rfl
  | case4 c after hquotes hescape ih =>
    obtain ⟨⟨inner', after'⟩, hread, heq⟩ := Option.map_eq_some_iff.mp h
    cases heq
    -- The rest of the text still holds the three quotes at its end, so nothing put behind it completes any others.
    have hlength : 3 ≤ after.length := by
      rw [append_of_blockEnd hread]
      simp only [List.length_append, List.length_cons]
      omega
    rw [List.cons_append, blockEnd.eq_4, ih hread]
    · rfl
    · intro tail hc heq
      obtain ⟨tail', htail⟩ := exists_of_append_of_length_le ['"', '"'] (Nat.le_of_succ_le hlength) heq
      exact hquotes tail' hc htail
    · intro tail hc heq
      obtain ⟨tail', htail⟩ := exists_of_append_of_length_le ['"', '"', '"'] hlength heq
      exact hescape tail' hc htail

theorem blockEnd_cons_feed : blockEnd ('\n' :: text) = (blockEnd text).map (Prod.map ('\n' :: ·) id) :=
  blockEnd.eq_4 _ _ (fun _ hc => absurd hc (by decide)) (fun _ hc => absurd hc (by decide))

/-! ### Lines -/

/-- A text has these tokens in front of any rest that does not go on with its last word. -/
def Spells (text : List Char) (tokens : List Token) : Prop :=
  ∀ ⦃rest : List Char⦄, (∀ x ∈ rest.head?, isWordChar x = false) →
    tokens? (text ++ rest) = (tokens? rest).map (tokens ++ ·)

theorem spells_word (h : IsIdentifier word) : Spells ("  " ++ word).toList [.name word] := by
  intro rest hrest
  rw [String.toList_append, List.append_assoc]
  exact (tokens?_cons_of_isIgnored (by decide)).trans
    ((tokens?_cons_of_isIgnored (by decide)).trans (tokens?_identifier h hrest))

/-- Lines give their tokens one after another. -/
theorem tokens?_lines {α : Type} {write : α → List Char} (spelled : α → List Token) {l : List α}
    (h : ∀ a ∈ l, Spells (write a) (spelled a)) (rest : List Char) :
    tokens? (['\n'].intercalate (l.map write) ++ '\n' :: rest) =
      (tokens? rest).map (l.flatMap spelled ++ ·) := by
  have hfeed (rest : List Char) : ∀ x ∈ ('\n' :: rest).head?, isWordChar x = false := by
    rintro x ⟨⟩
    decide
  induction l with
  | nil => exact (tokens?_cons_of_isIgnored (by decide)).trans Option.map_id'.symm
  | cons a l ih =>
    obtain ⟨ha, hl⟩ := List.forall_mem_cons.mp h
    cases l with
    | nil =>
      rw [List.map_singleton, List.intercalate_singleton, ha (hfeed rest), tokens?_cons_of_isIgnored (by decide),
        List.flatMap_singleton]
    | cons b l =>
      have hlines : ['\n'].intercalate ((a :: b :: l).map write) ++ '\n' :: rest =
          write a ++ '\n' :: (['\n'].intercalate ((b :: l).map write) ++ '\n' :: rest) := by
        simp [List.intercalate_cons_cons]
      rw [hlines, ha (hfeed _), tokens?_cons_of_isIgnored (by decide), ih hl, Option.map_map]
      congr 1
      funext tokens
      simp

/-- Whether a token is a string. -/
def Token.IsString : Token → Prop
  | .line _ | .block _ => True
  | .name _ | .mark _ => False

end Lexical

theorem Label.not_isString {label : Label} : ∀ token ∈ label.tokens, ¬token.IsString := by
  intro token htoken
  induction label with
  | scalar s =>
    rw [List.mem_singleton.mp htoken]
    exact id
  | named name =>
    rw [List.mem_singleton.mp htoken]
    exact id
  | list item ih =>
    simp only [Label.tokens, List.mem_cons, List.mem_append, List.not_mem_nil, or_false] at htoken
    rcases htoken with rfl | htoken | rfl
    · exact id
    · exact ih htoken
    · exact id

theorem Field.not_isString {name : String} {field : Field} : ∀ token ∈ field.tokens name, ¬token.IsString := by
  intro token htoken
  simp only [Field.tokens, List.mem_cons, List.mem_append] at htoken
  rcases htoken with rfl | rfl | htoken | htoken
  · exact id
  · exact id
  · exact Label.not_isString token htoken
  · split at htoken
    · rw [List.mem_singleton.mp htoken]
      exact id
    · cases htoken

/-! ### What types hold -/

theorem Field.spells_text {name : String} {field : Field} (hname : IsIdentifier name) (hlabel : field.label.Identified)
    (hdescription : written? field.description = none) : Spells (field.text name).toList (field.tokens name) := by
  intro rest hrest
  have hshown : field.shown.description = none := by rw [shown_description, hdescription, Option.map_none]
  rw [← tokens?_declaration rest hname hlabel hrest, text_toList, hshown]
  simp [quotation]

namespace Body

/-- Values that are identifiers, or fields without descriptions whose names and labels are made of identifiers. -/
def Identified : Body → Prop
  | .enum values => ∀ value ∈ values, IsIdentifier value
  | .composite _ fields =>
    ∀ named ∈ fields, IsIdentifier named.1 ∧ named.2.label.Identified ∧ written? named.2.description = none

instance : DecidablePred Identified
  | .enum values => inferInstanceAs (Decidable (∀ value ∈ values, IsIdentifier value))
  | .composite _ fields => inferInstanceAs (Decidable (∀ named ∈ fields,
      IsIdentifier named.1 ∧ named.2.label.Identified ∧ written? named.2.description = none))

/-- The values in ascending order, or the fields one after another. -/
def tokens : Body → List Token
  | .enum values => (values.mergeSort fun a b => decide (a ≤ b)).map .name
  | .composite _ fields => fields.flatMap fun named => named.2.tokens named.1

theorem not_isString {body : Body} : ∀ token ∈ body.tokens, ¬token.IsString := by
  intro token htoken
  cases body with
  | enum values =>
    obtain ⟨value, -, rfl⟩ := List.mem_map.mp htoken
    exact id
  | composite interface fields =>
    obtain ⟨named, -, htoken⟩ := List.mem_flatMap.mp htoken
    exact Field.not_isString token htoken

theorem tokens?_lines {body : Body} (h : body.Identified) (rest : List Char) :
    tokens? (['\n'].intercalate (body.lines.map String.toList) ++ '\n' :: rest) =
      (tokens? rest).map (body.tokens ++ ·) := by
  cases body with
  | enum values =>
    rw [lines, List.map_map, Lexical.tokens?_lines (fun value => [.name value]), ← List.map_eq_flatMap]
    · rfl
    · intro value hvalue
      exact spells_word (h value (List.mem_mergeSort.mp hvalue))
  | composite interface fields =>
    rw [lines, List.map_map, Lexical.tokens?_lines fun named => named.2.tokens named.1]
    · rfl
    · intro named hnamed
      obtain ⟨hname, hlabel, hdescription⟩ := h named hnamed
      exact Field.spells_text hname hlabel hdescription

end Body

/-! ### Types -/

namespace Entry
variable {entry stray : Entry} {name label written : String} {inner rest : List Char}

/-- The same type without a description. -/
def undescribed (entry : Entry) : Entry := { entry with description := none }

/-- The tokens of a type behind its description. -/
def tokens (name : String) (entry : Entry) : List Token :=
  .name entry.kind.keyword :: .name name :: .mark '\x7b' :: (entry.body.tokens ++ [.mark '\x7d'])

theorem not_isString : ∀ token ∈ entry.tokens name, ¬token.IsString := by
  intro token htoken
  simp only [tokens, List.mem_cons, List.mem_append, List.not_mem_nil, or_false] at htoken
  rcases htoken with rfl | rfl | rfl | htoken | rfl
  · exact id
  · exact id
  · exact id
  · exact Body.not_isString token htoken
  · exact id

theorem isIdentifier_keyword (kind : Kind) : IsIdentifier kind.keyword := by
  cases kind <;> decide

theorem text_eq_described (entry : Entry) (name : String) :
    (entry.text name).toList = (descriptionText entry.description).toList ++ (entry.undescribed.text name).toList := by
  rw [text_toList, text_toList, descriptionText_toList entry.undescribed.description]
  rfl

/-- A declaration is read up to the mark that closes it. -/
theorem tokens?_undescribed_append (hname : IsIdentifier name) (hbody : entry.body.Identified) (rest : List Char) :
    tokens? ((entry.undescribed.text name).toList ++ rest) = (tokens? rest).map (entry.tokens name ++ ·) := by
  have htext : (entry.undescribed.text name).toList ++ rest = entry.kind.keyword.toList ++ ' ' :: (name.toList ++ ' ' ::
      '\x7b' :: '\n' :: (['\n'].intercalate (entry.body.lines.map String.toList) ++ '\n' :: '\x7d' :: rest)) := by
    rw [text_toList, descriptionText_toList]
    simp [undescribed, written?, kind]
  rw [htext, tokens?_identifier (isIdentifier_keyword _) (by rintro x ⟨⟩; decide), tokens?_cons_of_isIgnored (by decide),
    tokens?_identifier hname (by rintro x ⟨⟩; decide), tokens?_cons_of_isIgnored (by decide), tokens?_mark (by decide),
    tokens?_cons_of_isIgnored (by decide), Body.tokens?_lines hbody, tokens?_mark (by decide)]
  simp only [Option.map_map, Function.comp_def, tokens, List.cons_append, List.append_assoc, List.nil_append]

theorem tokens?_undescribed (hname : IsIdentifier name) (hbody : entry.body.Identified) :
    tokens? (entry.undescribed.text name).toList = some (entry.tokens name) := by
  have hread := tokens?_undescribed_append hname hbody []
  rwa [List.append_nil, tokens?_nil, Option.map_some, List.append_nil] at hread

/-- Behind the quotes that open its block, a description is followed by those that close it. -/
theorem tokens?_described (hwritten : written ∈ entry.description) (hne : written ≠ "") :
    tokens? (entry.text name).toList =
      (blockEnd ('\n' :: written.toList ++ '\n' :: '"' :: '"' :: '"' :: '\n' :: (entry.undescribed.text name).toList)).bind
        fun read => (tokens? read.2).map (.block (String.ofList read.1) :: ·) := by
  rw [text_eq_described, descriptionText_toList, written?_of_mem hwritten hne]
  simp only [List.cons_append, List.append_assoc, List.nil_append]
  exact tokens?_block

theorem tokens?_of_blockText (hwritten : written ∈ entry.description) (hne : written ≠ "")
    (h : BlockText written.toList) : tokens? (entry.text name).toList =
      (tokens? (entry.undescribed.text name).toList).map (.block ("\n" ++ written ++ "\n") :: ·) := by
  have hinside : blockEnd ('\n' :: written.toList) = none := by
    rw [blockEnd_cons_feed, h.blockEnd_eq_none, Option.map_none]
  have hcontent : '\n' :: written.toList ++ ['\n'] = ("\n" ++ written ++ "\n").toList := by simp
  rw [tokens?_described hwritten hne, blockEnd_append (by decide) (by decide) hinside, Option.bind_some, hcontent,
    String.ofList_toList, tokens?_cons_of_isIgnored (by decide)]

theorem tokens?_of_blockEnd (hwritten : written ∈ entry.description) (hne : written ≠ "")
    (h : blockEnd written.toList = some (inner, rest)) : tokens? (entry.text name).toList =
      (tokens? (rest ++ '\n' :: '"' :: '"' :: '"' :: '\n' :: (entry.undescribed.text name).toList)).map
        (.block ("\n" ++ String.ofList inner) :: ·) := by
  have hinside : blockEnd ('\n' :: written.toList) = some ('\n' :: inner, rest) := by
    rw [blockEnd_cons_feed, h, Option.map_some]
    rfl
  have hcontent : String.ofList ('\n' :: inner) = "\n" ++ String.ofList inner := by
    rw [← String.toList_inj]
    simp
  rw [tokens?_described hwritten hne, blockEnd_append_of_eq_some hinside, Option.bind_some, hcontent]

theorem blockText_of_tokens? {more : List Token} (hwritten : written ∈ entry.description) (hne : written ≠ "")
    (h : tokens? (entry.text name).toList = some (.block ("\n" ++ written ++ "\n") :: more)) :
    BlockText written.toList := by
  by_contra hblock
  obtain ⟨⟨inner, rest⟩, hend⟩ := Option.ne_none_iff_exists'.mp (mt blockEnd_eq_none_iff.mp hblock)
  -- The string would end inside the description, so what is in it would be too short.
  rw [tokens?_of_blockEnd hwritten hne hend] at h
  obtain ⟨after, -, hafter⟩ := Option.map_eq_some_iff.mp h
  obtain ⟨hstring, -⟩ := List.cons.inj hafter
  have hlength := congrArg (fun text => text.toList.length) (Token.block.inj hstring)
  have hwhole := congrArg List.length (append_of_blockEnd hend)
  simp only [String.toList_append, String.toList_ofList, List.length_append, List.length_cons] at hlength hwhole
  omega

/-- Any declaration can come in through a description: put it between two rows of three quotes. -/
theorem tokens?_smuggled (hname : IsIdentifier name) (hbody : entry.body.Identified) (hlabel : IsIdentifier label)
    (hstray : stray.body.Identified)
    (hwritten : entry.description = some ("\"\"\"\n" ++ stray.undescribed.text label ++ "\n\"\"\"")) :
    tokens? (entry.text name).toList =
      some (.block "\n" :: (stray.tokens label ++ .block "\n" :: entry.tokens name)) := by
  have hend : blockEnd ("\"\"\"\n" ++ stray.undescribed.text label ++ "\n\"\"\"").toList =
      some ([], '\n' :: (stray.undescribed.text label).toList ++ ['\n', '"', '"', '"']) := by
    simp [blockEnd]
  have hempty (rest : List Char) : blockEnd ('\n' :: '"' :: '"' :: '"' :: rest) = some (['\n'], rest) :=
    blockEnd_append (by decide) (by decide) (show blockEnd [] = none from rfl)
  rw [tokens?_of_blockEnd hwritten (by simp [← String.toList_inj]) hend]
  simp only [List.cons_append, List.append_assoc, List.nil_append]
  rw [tokens?_cons_of_isIgnored (by decide), tokens?_undescribed_append hlabel hstray,
    tokens?_cons_of_isIgnored (by decide), tokens?_block, hempty, Option.bind_some,
    tokens?_cons_of_isIgnored (by decide), tokens?_undescribed hname hbody]
  rfl

/-- Take a type under an identifier, with identifiers for values, or with fields that have identifiers for names, labels
made of them and no descriptions. Without a description its text has the tokens of the declaration, none of which is a
string, and an empty description is not written. Any other description is read as one string in front of just these
tokens, closed by the quotes that are written for it, exactly if it has no three quotes in a row other than behind a
backslash. If it has such quotes, the first of them end the string, and the rest of the description is read as tokens
like anything else, up to the quotes that are written behind it. -/
theorem tokens_of_described (name : String) (entry : Entry) (hname : IsIdentifier name)
    (hbody : entry.body.Identified) :
    tokens? (entry.undescribed.text name).toList = some (entry.tokens name) ∧
    (∀ token ∈ entry.tokens name, ¬token.IsString) ∧
    ((∀ written ∈ entry.description, written = "") → entry.text name = entry.undescribed.text name) ∧
    ∀ written ∈ entry.description, written ≠ "" →
      (tokens? (entry.text name).toList = some (.block ("\n" ++ written ++ "\n") :: entry.tokens name) ↔
        BlockText written.toList) ∧
      (¬BlockText written.toList → ∃ inner rest, written.toList = inner ++ '"' :: '"' :: '"' :: rest ∧
        BlockText (inner ++ ['"', '"']) ∧
        tokens? (entry.text name).toList =
          (tokens? (rest ++ '\n' :: '"' :: '"' :: '"' :: '\n' :: (entry.undescribed.text name).toList)).map
            (.block ("\n" ++ String.ofList inner) :: ·)) := by
  have hdeclaration := tokens?_undescribed hname hbody
  refine ⟨hdeclaration, not_isString, ?_, fun written hwritten hne => ⟨⟨?_, ?_⟩, ?_⟩⟩
  · intro hempty
    rw [← String.toList_inj, text_eq_described, descriptionText_toList, written?_eq_none_iff.mpr hempty,
      List.nil_append]
  · exact blockText_of_tokens? hwritten hne
  · intro hblock
    rw [tokens?_of_blockText hwritten hne hblock, hdeclaration, Option.map_some]
  · intro hblock
    obtain ⟨⟨inner, rest⟩, hend⟩ := Option.ne_none_iff_exists'.mp (mt blockEnd_eq_none_iff.mp hblock)
    exact ⟨inner, rest, append_of_blockEnd hend, blockText_of_blockEnd_eq_some hend,
      tokens?_of_blockEnd hwritten hne hend⟩

/-- A type whose description closes its own block, declares another type and opens a block again. -/
theorem exists_description_read_as_type :
    let stray : Entry := ⟨⟨"Stray", []⟩, none, false, .composite false [("y", ⟨.scalar .int, none, false⟩)]⟩
    let written := "\"\"\"\ntype Stray \x7b\n  y: Int\n\x7d\n\"\"\""
    let entry : Entry := ⟨⟨"A", []⟩, some written, false, .composite false [("x", ⟨.scalar .string, none, false⟩)]⟩
    IsIdentifier "A" ∧ entry.body.Identified ∧ written ≠ "" ∧
    tokens? (entry.text "A").toList =
      some (.block "\n" :: (stray.tokens "Stray" ++ .block "\n" :: entry.tokens "A")) ∧
    tokens? (entry.text "A").toList ≠ some (.block ("\n" ++ written ++ "\n") :: entry.tokens "A") := by
  intro stray written entry
  have hbody : entry.body.Identified := by decide
  have hread : tokens? (entry.text "A").toList =
      some (.block "\n" :: (stray.tokens "Stray" ++ .block "\n" :: entry.tokens "A")) :=
    tokens?_smuggled (by decide) hbody (by decide) (by decide) (by cbv)
  refine ⟨by decide, hbody, by decide, hread, ?_⟩
  rw [hread]
  decide

/-- A description with quotes, three of them behind a backslash, is one string in front of its enumeration. One that
is three quotes is not. -/
theorem tokens_of_described_quoted :
    let color (written : String) : Entry := ⟨⟨"Color", []⟩, some written, false, .enum ["RED", "BLUE"]⟩
    let quoted := "Say \"\"hi\"\" or\n\\\"\"\" type"
    (IsIdentifier "Color" ∧ (color quoted).body.Identified ∧ (color "\"\"\"").body.Identified ∧ quoted ≠ "") ∧
    tokens? ((color quoted).text "Color").toList = some [.block ("\n" ++ quoted ++ "\n"), .name "enum", .name "Color",
      .mark '\x7b', .name "BLUE", .name "RED", .mark '\x7d'] ∧
    tokens? ((color "\"\"\"").text "Color").toList ≠
      some (.block "\n\"\"\"\n" :: (color "\"\"\"").tokens "Color") := by
  intro color quoted
  have hname : IsIdentifier "Color" := by decide
  have hbody (written : String) : (color written).body.Identified := by
    show Body.Identified (.enum ["RED", "BLUE"])
    decide
  refine ⟨⟨hname, hbody _, hbody _, by decide⟩, ?_, ?_⟩
  · obtain ⟨-, -, -, hwritten⟩ := tokens_of_described "Color" (color quoted) hname (hbody _)
    obtain ⟨hstring, -⟩ := hwritten quoted rfl (by decide)
    exact (hstring.mpr (by decide)).trans (by cbv)
  · obtain ⟨-, -, -, hwritten⟩ := tokens_of_described "Color" (color "\"\"\"") hname (hbody _)
    obtain ⟨hstring, -⟩ := hwritten "\"\"\"" rfl (by decide)
    exact mt hstring.mp (by decide)

end Entry
end SchemaSdl
