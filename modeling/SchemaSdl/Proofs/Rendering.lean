import Mathlib
import SchemaSdl.Pass
import SchemaSdl.Proofs.Legible

/-! What the text of a registry tells about its types: everything that is written, in order, and nothing else. Names
are words, values stand on one line, and no line of a type's description looks like its end. Descriptions of fields
may be any texts, because their quotes are left out. -/

namespace SchemaSdl
open Text

/-! ### Labels -/

namespace Label
variable {a b : Label} {s t : List Char} {c d : Char}

/-- Named types have words for names, other than those of the leaf types. -/
def Plain : Label → Prop
  | .scalar _ => True
  | .named name => IsWord name ∧ ∀ scalar : Scalar, name ≠ scalar.name
  | .list item => item.Plain

instance decidablePlain : DecidablePred Plain
  | .scalar _ => isTrue trivial
  | .named name =>
    decidable_of_iff (IsWord name ∧ ∀ scalar ∈ [Scalar.string, .int, .float, .boolean], name ≠ scalar.name)
      (and_congr_right fun _ => ⟨fun h scalar => h scalar (by cases scalar <;> decide), fun h scalar _ => h scalar⟩)
  | .list item => decidablePlain item

theorem isWord_scalar (scalar : Scalar) : IsWord scalar.name := by
  cases scalar <;> exact ⟨by decide, by decide⟩

theorem scalar_name_injective : Function.Injective Scalar.name := by
  intro m n h
  cases m <;> cases n <;> first | rfl | exact absurd h (by decide)

theorem word_ne_list {w : String} (hw : IsWord w) : w.toList ++ s ≠ '[' :: t := by
  obtain ⟨x, rest, hwrest, hx⟩ := hw.exists_cons
  rw [hwrest]
  rintro h
  obtain ⟨rfl, -⟩ := List.cons.inj h
  exact absurd hx (by decide)

/-- A label is legible up to a character that is in no word. -/
theorem text_cancel (ha : a.Plain) (hb : b.Plain) (hc : isWordChar c = false) (hd : isWordChar d = false)
    (h : a.text.toList ++ c :: s = b.text.toList ++ d :: t) : a = b ∧ c = d ∧ s = t := by
  induction a generalizing b c d s t with
  | scalar m =>
    cases b with
    | scalar n =>
      obtain ⟨hname, hrest⟩ := (isWord_scalar m).cancel (isWord_scalar n) hc hd h
      exact ⟨congrArg Label.scalar (scalar_name_injective hname), hrest⟩
    | named name =>
      obtain ⟨hname, -⟩ := (isWord_scalar m).cancel hb.1 hc hd h
      exact absurd hname.symm (hb.2 m)
    | list item =>
      simp only [text, String.toList_append, List.append_assoc] at h
      exact absurd h (word_ne_list (isWord_scalar m))
  | named name =>
    cases b with
    | scalar n =>
      obtain ⟨hname, -⟩ := ha.1.cancel (isWord_scalar n) hc hd h
      exact absurd hname (ha.2 n)
    | named other =>
      obtain ⟨hname, hrest⟩ := ha.1.cancel hb.1 hc hd h
      exact ⟨congrArg Label.named hname, hrest⟩
    | list item =>
      simp only [text, String.toList_append, List.append_assoc] at h
      exact absurd h (word_ne_list ha.1)
  | list item ih =>
    cases b with
    | scalar n =>
      simp only [text, String.toList_append, List.append_assoc] at h
      exact absurd h.symm (word_ne_list (isWord_scalar n))
    | named name =>
      simp only [text, String.toList_append, List.append_assoc] at h
      exact absurd h.symm (word_ne_list hb.1)
    | list other =>
      simp only [text, String.toList_append, List.append_assoc] at h
      have hitem : item.text.toList ++ ']' :: c :: s = other.text.toList ++ ']' :: d :: t := (List.cons.inj h).2
      obtain ⟨rfl, -, hrest⟩ := ih (b := other) ha hb (by decide) (by decide) hitem
      obtain ⟨hcd, hst⟩ := List.cons.inj hrest
      exact ⟨rfl, hcd, hst⟩

theorem marked_cancel {m n : Bool} (ha : a.Plain) (hb : b.Plain)
    (h : a.text.toList ++ ((if m then ['!'] else []) ++ '\n' :: s) =
      b.text.toList ++ ((if n then ['!'] else []) ++ '\n' :: t)) : a = b ∧ m = n ∧ s = t := by
  cases m <;> cases n
  · obtain ⟨hab, -, hst⟩ := text_cancel ha hb (by decide) (by decide) h
    exact ⟨hab, rfl, hst⟩
  · obtain ⟨-, hchar, -⟩ := text_cancel ha hb (by decide) (by decide) h
    exact absurd hchar (by decide)
  · obtain ⟨-, hchar, -⟩ := text_cancel ha hb (by decide) (by decide) h
    exact absurd hchar (by decide)
  · obtain ⟨hab, -, hst⟩ := text_cancel ha hb (by decide) (by decide) h
    exact ⟨hab, rfl, (List.cons.inj hst).2⟩

end Label

/-! ### Fields -/

/-- A description that says something: an empty one is none. -/
def said (description : Option String) : Option String := if description = some "" then none else description

theorem written?_eq_said (description : Option String) : written? description = said description := by
  unfold said
  split
  · rw [written?_eq_none_iff]
    rintro written hwritten
    exact Option.some.inj ((Option.mem_def.mp hwritten).symm.trans ‹description = some ""›)
  · cases description with
    | none => rfl
    | some written => exact written?_of_mem rfl fun hempty => absurd (congrArg some hempty) ‹some written ≠ some ""›

namespace Field
variable {s t : List Char}

/-- The lines of a description without its quotes. -/
def quotation : Option String → String
  | none => ""
  | some plain =>
    if '\n' ∈ plain.toList then "  \"\"\"\n  " ++ indented plain ++ "\n  \"\"\"\n"
    else "  \"" ++ plain ++ "\"\n"

theorem descriptionText_eq (description : Option String) :
    descriptionText description = quotation ((written? description).map unquoted) := by
  rw [descriptionText]
  cases written? description <;> rfl

theorem quote_not_mem_unquoted (text : String) : '"' ∉ (unquoted text).toList := by
  simp [unquoted]

/-- A line feed with what indents the next line, or any other character. -/
def indentedChar (c : Char) : List Char := if c = '\n' then ['\n', ' ', ' '] else [c]

theorem legible_indentedChar : Legible indentedChar id fun _ => True := by
  intro a b _ _ s t h
  unfold indentedChar at h
  -- The first character tells which one it was.
  split at h <;> split at h
  · exact ⟨‹a = '\n'›.trans ‹b = '\n'›.symm, List.append_cancel_left h⟩
  · exact absurd (List.cons.inj h).1.symm ‹_›
  · exact absurd (List.cons.inj h).1 ‹_›
  · exact List.cons.inj h

theorem indented_toList (text : String) : (indented text).toList = text.toList.flatMap indentedChar := by
  rw [indented, String.toList_ofList]
  rfl

theorem indented_injective : Function.Injective indented := by
  intro m n h
  have hlist := congrArg String.toList h
  rw [indented_toList, indented_toList, ← List.append_nil (m.toList.flatMap _),
    ← List.append_nil (n.toList.flatMap _)] at hlist
  have hopens : Opens (fun _ => True) indentedChar fun _ => True := fun c _ => by
    unfold indentedChar
    split <;> exact ⟨_, _, rfl, trivial⟩
  obtain ⟨hmap, -⟩ := legible_indentedChar.flatMap hopens (fun _ _ => trivial) (fun _ _ => trivial)
    (by simp) (by simp) hlist
  rw [List.map_id, List.map_id] at hmap
  exact String.toList_injective hmap

theorem quote_not_mem_indented {text : String} (h : '"' ∉ text.toList) : '"' ∉ (indented text).toList := by
  rw [indented_toList, List.mem_flatMap]
  rintro ⟨c, hc, hquote⟩
  unfold indentedChar at hquote
  split at hquote
  · simp at hquote
  · obtain rfl := List.mem_singleton.mp hquote
    exact h hc

theorem quotation_of_line {plain : String} (h : '\n' ∉ plain.toList) :
    (quotation (some plain)).toList = ' ' :: ' ' :: '"' :: (plain.toList ++ ['"', '\n']) := by
  simp [quotation, h]

/-- The line that ends a description of several lines. -/
def closing : List Char := [' ', ' ', '"', '"', '"']

theorem quotation_of_block {plain : String} (h : '\n' ∈ plain.toList) :
    (quotation (some plain)).toList = ' ' :: ' ' :: '"' :: '"' :: '"' :: '\n' ::
      (' ' :: ' ' :: (indented plain).toList ++ '\n' :: (closing ++ ['\n'])) := by
  simp [quotation, h, closing]

theorem exists_quotation (plain : String) : ∃ rest, (quotation (some plain)).toList = ' ' :: ' ' :: '"' :: rest := by
  by_cases h : '\n' ∈ plain.toList
  · exact ⟨_, quotation_of_block h⟩
  · exact ⟨_, quotation_of_line h⟩

theorem line_ne_block {l : List Char} (h : '"' ∉ l) : l ++ '"' :: '\n' :: s ≠ '"' :: '"' :: t := by
  intro heq
  obtain ⟨-, -, hrest⟩ := append_cons_cancel (p := fun x => x ≠ '"') (m := [])
    (fun x hx hxq => h (hxq ▸ hx)) nofun (by simp) (by simp) heq
  exact absurd (List.cons.inj hrest).1 (by decide)

/-- The line that ends a description is none of its lines, which have no quotes. -/
theorem closing_not_mem_cut {text : String} (h : '"' ∉ text.toList) :
    closing ∉ cut '\n' (' ' :: ' ' :: (indented text).toList) := by
  intro hclosing
  have hquote := mem_of_mem_cut hclosing (show '"' ∈ closing by decide)
  simp only [List.mem_cons] at hquote
  rcases hquote with hquote | hquote | hquote
  · exact absurd hquote (by decide)
  · exact absurd hquote (by decide)
  · exact quote_not_mem_indented h hquote

theorem indented_cancel {m n : String} (hm : '"' ∉ m.toList) (hn : '"' ∉ n.toList)
    (h : (indented m).toList ++ '\n' :: (closing ++ '\n' :: s) =
      (indented n).toList ++ '\n' :: (closing ++ '\n' :: t)) : m = n ∧ s = t := by
  have hlines : ' ' :: ' ' :: (indented m).toList ++ '\n' :: (closing ++ '\n' :: s) =
      ' ' :: ' ' :: (indented n).toList ++ '\n' :: (closing ++ '\n' :: t) := by
    simp only [List.cons_append, h]
  obtain ⟨htext, hrest⟩ := closing_cancel (by decide) (closing_not_mem_cut hm) (closing_not_mem_cut hn) hlines
  simp only [List.cons.injEq, true_and] at htext
  exact ⟨indented_injective (String.toList_injective htext), hrest⟩

/-- Without quotes inside, a quotation is legible in front of a line that does not begin with one. -/
theorem quotation_cancel {p q : Option String} (hp : ∀ plain ∈ p, '"' ∉ plain.toList)
    (hq : ∀ plain ∈ q, '"' ∉ plain.toList) (hs : '"' ∉ s.head?) (ht : '"' ∉ t.head?)
    (h : (quotation p).toList ++ ' ' :: ' ' :: s = (quotation q).toList ++ ' ' :: ' ' :: t) : p = q ∧ s = t := by
  cases p with
  | none =>
    cases q with
    | none => exact ⟨rfl, (List.cons.inj (List.cons.inj h).2).2⟩
    | some n =>
      obtain ⟨rest, hrest⟩ := exists_quotation n
      rw [hrest] at h
      have hquote : s = '"' :: _ := (List.cons.inj (List.cons.inj h).2).2
      exact absurd (by simp [hquote]) hs
  | some m =>
    have hm : '"' ∉ m.toList := hp m rfl
    cases q with
    | none =>
      obtain ⟨rest, hrest⟩ := exists_quotation m
      rw [hrest] at h
      have hquote : '"' :: _ = t := (List.cons.inj (List.cons.inj h).2).2
      exact absurd (by simp [← hquote]) ht
    | some n =>
      have hn : '"' ∉ n.toList := hq n rfl
      -- The two forms differ behind their first quote, where no quote can be part of the description.
      by_cases hmlines : '\n' ∈ m.toList <;> by_cases hnlines : '\n' ∈ n.toList
      · rw [quotation_of_block hmlines, quotation_of_block hnlines] at h
        simp only [List.cons_append, List.append_assoc, List.nil_append, List.cons.injEq, true_and] at h
        obtain ⟨rfl, hrest⟩ := indented_cancel hm hn h
        simp only [List.cons.injEq, true_and] at hrest
        exact ⟨rfl, hrest⟩
      · rw [quotation_of_block hmlines, quotation_of_line hnlines] at h
        simp only [List.cons_append, List.append_assoc, List.nil_append, List.cons.injEq, true_and] at h
        exact absurd h.symm (line_ne_block hn)
      · rw [quotation_of_line hmlines, quotation_of_block hnlines] at h
        simp only [List.cons_append, List.append_assoc, List.nil_append, List.cons.injEq, true_and] at h
        exact absurd h (line_ne_block hm)
      · rw [quotation_of_line hmlines, quotation_of_line hnlines] at h
        simp only [List.cons_append, List.append_assoc, List.nil_append, List.cons.injEq, true_and] at h
        obtain ⟨hmn, -, hrest⟩ := append_cons_cancel (p := fun x => x ≠ '"') (fun x hx hxq => hm (hxq ▸ hx))
          (fun x hx hxq => hn (hxq ▸ hx)) (by simp) (by simp) h
        simp only [List.cons.injEq, true_and] at hrest
        exact ⟨congrArg some (String.toList_injective hmn), hrest⟩

/-- A field under its name, the name a word and the label plain. -/
def Plain (named : String × Field) : Prop := IsWord named.1 ∧ named.2.label.Plain

instance : DecidablePred Plain := fun named => inferInstanceAs (Decidable (IsWord named.1 ∧ named.2.label.Plain))

/-- What the text of a field tells of it. Its description keeps all characters but quotes, in their order, and one that
was empty before is none. -/
def shown (field : Field) : Field :=
  { field with description := (said field.description).map fun text => String.ofList (text.toList.filter (· ≠ '"')) }

theorem shown_description (field : Field) :
    field.shown.description = (written? field.description).map unquoted := by
  rw [written?_eq_said]
  rfl

def shownText (name : String) (field : Field) : String :=
  quotation field.description ++ "  " ++ name ++ ": " ++ field.label.text ++ (if field.required then "!" else "")

theorem text_eq_shown (name : String) (field : Field) : field.text name = field.shown.shownText name := by
  rw [text, descriptionText_eq, ← shown_description]
  rfl

theorem text_toList (name : String) (field : Field) : (field.text name).toList =
    (quotation field.shown.description).toList ++ ' ' :: ' ' :: (name.toList ++ ':' :: ' ' ::
      (field.label.text.toList ++ if field.required then ['!'] else [])) := by
  rw [text_eq_shown, shownText]
  cases hr : field.required <;> simp [shown, hr]

theorem quote_not_mem_shown (field : Field) : ∀ plain ∈ field.shown.description, '"' ∉ plain.toList := by
  intro plain hplain
  rw [shown_description] at hplain
  obtain ⟨written, -, rfl⟩ := Option.map_eq_some_iff.mp hplain
  exact quote_not_mem_unquoted written

theorem opens_text : Opens (fun c => c = ' ') (fun named : String × Field => (named.2.text named.1).toList) Plain := by
  rintro ⟨name, field⟩ -
  simp only [text_toList]
  cases field.shown.description with
  | none => exact ⟨' ', _, rfl, rfl⟩
  | some plain =>
    obtain ⟨rest, hrest⟩ := exists_quotation plain
    rw [hrest]
    exact ⟨' ', _, rfl, rfl⟩

theorem legible : Legible (fun named : String × Field => (named.2.text named.1).toList ++ ['\n'])
    (fun named => (named.1, named.2.shown)) Plain := by
  rintro ⟨name, field⟩ ⟨other, more⟩ ⟨hname, hlabel⟩ ⟨hother, hmore⟩ s t h
  simp only [text_toList, List.append_assoc, List.cons_append] at h
  obtain ⟨hdescription, h⟩ := quotation_cancel (quote_not_mem_shown field) (quote_not_mem_shown more)
    hname.quote_not_mem_head? hother.quote_not_mem_head? h
  obtain ⟨rfl, -, h⟩ := IsWord.cancel hname hother (by decide) (by decide) h
  obtain ⟨hlabels, hrequired, hst⟩ := Label.marked_cancel hlabel hmore (List.cons.inj h).2
  refine ⟨?_, hst⟩
  simp only [shown] at hdescription ⊢
  rw [hdescription, hlabels, hrequired]

end Field

/-! ### Types -/

namespace Body

/-- Fields under words, and values that stand on one line. -/
def Plain : Body → Prop
  | .enum values => ∀ value ∈ values, '\n' ∉ value.toList
  | .composite _ fields => ∀ named ∈ fields, Field.Plain named

instance : DecidablePred Plain
  | .enum values => inferInstanceAs (Decidable (∀ value ∈ values, '\n' ∉ value.toList))
  | .composite _ fields => inferInstanceAs (Decidable (∀ named ∈ fields, Field.Plain named))

/-- What the text of a type tells of what it holds: the values in ascending order, or the fields. -/
def shown : Body → Body
  | .enum values => .enum (values.mergeSort fun a b => decide (a ≤ b))
  | .composite interface fields => .composite interface (fields.map fun named => (named.1, named.2.shown))

def shownLines : Body → List String
  | .enum values => values.map ("  " ++ ·)
  | .composite _ fields => fields.map fun named => named.2.shownText named.1

theorem lines_eq_shown (body : Body) : body.lines = body.shown.shownLines := by
  cases body with
  | enum values => rfl
  | composite interface fields =>
    rw [lines, shown, shownLines, List.map_map]
    exact List.map_congr_left fun named _ => Field.text_eq_shown named.1 named.2

theorem legible_value : Legible (fun value : String => ("  " ++ value).toList ++ ['\n']) id
    fun value => '\n' ∉ value.toList := by
  intro v w hv hw s t h
  simp only [String.toList_append, List.append_assoc, List.singleton_append, List.append_cancel_left_eq] at h
  obtain ⟨hvw, -, hst⟩ := append_cons_cancel (p := fun x => x ≠ '\n') (fun x hx hxn => hv (hxn ▸ hx))
    (fun x hx hxn => hw (hxn ▸ hx)) (by simp) (by simp) h
  exact ⟨String.toList_injective hvw, hst⟩

theorem enum_cancel {v w : List String} {s t : List Char} (hv : (enum v).Plain) (hw : (enum w).Plain)
    (h : ['\n'].intercalate ((enum v).lines.map String.toList) ++ '\n' :: '\x7d' :: s =
      ['\n'].intercalate ((enum w).lines.map String.toList) ++ '\n' :: '\x7d' :: t) :
    (enum v).shown = (enum w).shown ∧ s = t := by
  have hopens : Opens (fun c => c = ' ') (fun value : String => ("  " ++ value).toList)
      fun value => '\n' ∉ value.toList := fun value _ => ⟨' ', ' ' :: value.toList, by simp, rfl⟩
  simp only [lines, List.map_map, Function.comp_def] at h
  obtain ⟨hmap, hst⟩ := legible_value.intercalate hopens (by decide) (fun x hx => hv x (List.mem_mergeSort.mp hx))
    (fun x hx => hw x (List.mem_mergeSort.mp hx)) (by simp) (by simp) h
  rw [List.map_id, List.map_id] at hmap
  exact ⟨congrArg Body.enum hmap, (List.cons.inj hst).2⟩

theorem composite_cancel {interface : Bool} {v w : Members Field} {s t : List Char}
    (hv : (composite interface v).Plain) (hw : (composite interface w).Plain)
    (h : ['\n'].intercalate ((composite interface v).lines.map String.toList) ++ '\n' :: '\x7d' :: s =
      ['\n'].intercalate ((composite interface w).lines.map String.toList) ++ '\n' :: '\x7d' :: t) :
    (composite interface v).shown = (composite interface w).shown ∧ s = t := by
  simp only [lines, List.map_map, Function.comp_def] at h
  obtain ⟨hmap, hst⟩ := Field.legible.intercalate Field.opens_text (by decide) hv hw (by simp) (by simp) h
  exact ⟨congrArg (Body.composite interface) hmap, (List.cons.inj hst).2⟩

end Body

/-- What the text of a type tells of it: the name it is known by, its kind, its description, an empty one being none,
and what it holds. -/
structure Shown where
  key : String
  kind : Kind
  description : Option String
  body : Body
deriving DecidableEq

/-- The text of a type as it is shown. -/
def Shown.text (shown : Shown) : String :=
  Entry.descriptionText shown.description ++ shown.kind.keyword ++ " " ++ shown.key ++ " \x7b\n"
    ++ "\n".intercalate shown.body.shownLines ++ "\n\x7d"

namespace Entry
variable {a b : Entry} {s t : List Char}

/-- A type under a word, with a description of which no line is its end, and with plain contents. -/
def Plain (entry : Entry) : Prop :=
  IsWord entry.key ∧ (∀ written ∈ entry.description, "\"\"\"" ∉ pieces '\n' written) ∧ entry.body.Plain

instance : DecidablePred Plain := fun entry => inferInstanceAs (Decidable (IsWord entry.key ∧
  (∀ written ∈ entry.description, "\"\"\"" ∉ pieces '\n' written) ∧ entry.body.Plain))

def shown (entry : Entry) : Shown := ⟨entry.key, entry.kind, said entry.description, entry.body.shown⟩

theorem isWord_keyword (kind : Kind) : IsWord kind.keyword := by
  cases kind <;> exact ⟨by decide, by decide⟩

theorem keyword_injective : Function.Injective Kind.keyword := by
  intro m n h
  cases m <;> cases n <;> first | rfl | exact absurd h (by decide)

theorem lines_cancel (ha : a.body.Plain) (hb : b.body.Plain) (hkind : a.kind = b.kind)
    (h : ['\n'].intercalate (a.body.lines.map String.toList) ++ '\n' :: '\x7d' :: s =
      ['\n'].intercalate (b.body.lines.map String.toList) ++ '\n' :: '\x7d' :: t) :
    a.body.shown = b.body.shown ∧ s = t := by
  unfold kind at hkind
  cases hab : a.body with
  | enum v =>
    cases hbb : b.body with
    | enum w =>
      rw [hab] at ha h
      rw [hbb] at hb h
      exact Body.enum_cancel ha hb h
    | composite interface w =>
      rw [hab, hbb] at hkind
      cases interface <;> cases hkind
  | composite interface v =>
    cases hbb : b.body with
    | enum w =>
      rw [hab, hbb] at hkind
      cases interface <;> cases hkind
    | composite other w =>
      obtain rfl : interface = other := by
        rw [hab, hbb] at hkind
        cases interface <;> cases other <;> first | rfl | cases hkind
      rw [hab] at ha h
      rw [hbb] at hb h
      exact Body.composite_cancel ha hb h

/-- The text of the type is that of what it shows. -/
theorem text_eq_shown (entry : Entry) : entry.text entry.key = entry.shown.text := by
  have hdescription : descriptionText (written? entry.description) = descriptionText entry.description := by
    rw [descriptionText, descriptionText]
    cases hwritten : written? entry.description with
    | none => rfl
    | some written =>
      obtain ⟨-, hne⟩ := Option.filter_eq_some_iff.mp hwritten
      rw [written?, Option.filter_some, if_pos hne]
  rw [text, Shown.text, shown, ← written?_eq_said, hdescription, ← Body.lines_eq_shown]

theorem descriptionText_toList (description : Option String) : (descriptionText description).toList =
    match written? description with
    | none => []
    | some written =>
      '"' :: '"' :: '"' :: '\n' :: (written.toList ++ '\n' :: (['"', '"', '"'] ++ ['\n'])) := by
  rw [descriptionText]
  cases written? description <;> simp

theorem closing_not_mem_cut {description : Option String} {written : String}
    (h : ∀ written ∈ description, "\"\"\"" ∉ pieces '\n' written) (hwritten : written? description = some written) :
    ['"', '"', '"'] ∉ cut '\n' written.toList := by
  intro hclosing
  obtain ⟨hdescription, -⟩ := Option.filter_eq_some_iff.mp hwritten
  exact h written hdescription (List.mem_map.mpr ⟨_, hclosing, rfl⟩)

/-- The description of a type is legible in front of a line that does not begin with a quote. -/
theorem description_cancel {p q : Option String} (hp : ∀ written ∈ p, "\"\"\"" ∉ pieces '\n' written)
    (hq : ∀ written ∈ q, "\"\"\"" ∉ pieces '\n' written) (hs : '"' ∉ s.head?) (ht : '"' ∉ t.head?)
    (h : (descriptionText p).toList ++ s = (descriptionText q).toList ++ t) : written? p = written? q ∧ s = t := by
  rw [descriptionText_toList, descriptionText_toList] at h
  cases hpw : written? p with
  | none =>
    cases hqw : written? q with
    | none =>
      rw [hpw, hqw] at h
      exact ⟨rfl, h⟩
    | some w =>
      rw [hpw, hqw] at h
      have hquote : s = '"' :: _ := h
      exact absurd (by simp [hquote]) hs
  | some v =>
    cases hqw : written? q with
    | none =>
      rw [hpw, hqw] at h
      have hquote : '"' :: _ = t := h
      exact absurd (by simp [← hquote]) ht
    | some w =>
      rw [hpw, hqw] at h
      simp only [List.cons_append, List.append_assoc, List.cons.injEq, true_and] at h
      obtain ⟨hvw, hst⟩ := closing_cancel (by decide) (closing_not_mem_cut hp hpw) (closing_not_mem_cut hq hqw) h
      exact ⟨congrArg some (String.toList_injective hvw), hst⟩

theorem text_toList (name : String) (entry : Entry) : (entry.text name).toList =
    (descriptionText entry.description).toList ++ (entry.kind.keyword.toList ++ ' ' :: (name.toList ++ ' ' :: '\x7b' ::
      '\n' :: (['\n'].intercalate (entry.body.lines.map String.toList) ++ ['\n', '\x7d']))) := by
  simp [text]

theorem opens_text : Opens (fun c => c ≠ '\n') (fun entry : Entry => (entry.text entry.key).toList) Plain := by
  intro entry _
  simp only [text_toList, descriptionText_toList]
  cases written? entry.description with
  | some written => exact ⟨'"', _, rfl, by decide⟩
  | none => cases entry.kind <;> exact ⟨_, _, rfl, by decide⟩

/-- A type is legible up to the end of its last line. -/
theorem legible : Legible (fun entry : Entry => (entry.text entry.key).toList ++ ['\n']) shown Plain := by
  rintro a b ⟨hakey, hadescription, habody⟩ ⟨hbkey, hbdescription, hbbody⟩ s t h
  simp only [text_toList, List.append_assoc, List.cons_append, List.nil_append] at h
  obtain ⟨hdescription, h⟩ := description_cancel hadescription hbdescription
    (isWord_keyword _).quote_not_mem_head? (isWord_keyword _).quote_not_mem_head? h
  obtain ⟨hkeyword, -, h⟩ := (isWord_keyword _).cancel (isWord_keyword _) (by decide) (by decide) h
  obtain ⟨hkey, -, h⟩ := hakey.cancel hbkey (by decide) (by decide) h
  have hkind : a.kind = b.kind := keyword_injective hkeyword
  simp only [List.cons.injEq, true_and] at h
  obtain ⟨hbody, hst⟩ := lines_cancel habody hbbody hkind h
  refine ⟨?_, (List.cons.inj hst).2⟩
  rw [shown, shown, ← written?_eq_said, ← written?_eq_said, hkey, hkind, hdescription, hbody]

end Entry

/-! ### Registries -/

namespace Registry
variable {registry other : Registry}

def Plain (registry : Registry) : Prop := ∀ entry ∈ registry.entries, entry.Plain

instance : DecidablePred Plain := fun registry => inferInstanceAs (Decidable (∀ entry ∈ registry.entries, entry.Plain))

theorem text_toList (registry : Registry) : (joinBlocks (Pass.blocks registry)).toList =
    ['\n'].intercalate (registry.entries.map fun entry => (entry.text entry.key).toList) := by
  simp [joinBlocks, Pass.blocks, Function.comp_def]

/-- The texts of two plain registries are the same if and only if their types show the same, one after another: name,
kind, description, and the values in ascending order or the fields in their own, with names, labels, marks and
descriptions without quotes. -/
theorem text_eq_iff_shown_eq (registry other : Registry) (hplain : registry.Plain) (hother : other.Plain) :
    joinBlocks (Pass.blocks registry) = joinBlocks (Pass.blocks other) ↔
      registry.entries.map Entry.shown = other.entries.map Entry.shown := by
  constructor
  · intro h
    have hlist := congrArg (fun text => text.toList ++ ['\n']) h
    simp only [text_toList] at hlist
    obtain ⟨hmap, -⟩ := Entry.legible.intercalate Entry.opens_text (by simp) hplain hother (by simp) (by simp) hlist
    exact hmap
  · intro h
    have hblocks (registry : Registry) :
        Pass.blocks registry = (registry.entries.map Entry.shown).map Shown.text := by
      rw [Pass.blocks, List.map_map]
      exact List.map_congr_left fun entry _ => entry.text_eq_shown
    rw [hblocks, hblocks, h]

/-- An enumeration, and an interface with a field whose description has two lines. -/
def sample (description : Option String) (values : List String) (said : String) : Registry :=
  ⟨[⟨⟨"Color", []⟩, description, false, .enum values⟩,
    ⟨⟨"Root", ["of"]⟩, none, true, .composite true [("all", ⟨.list (.named "Color"), some said, true⟩)]⟩]⟩

/-- Empty descriptions, the order of values and quotes in the descriptions of fields are not written. All else in the
descriptions of fields is, and so are descriptions of types. -/
theorem text_eq_iff_shown_eq_sample :
    (joinBlocks (Pass.blocks (sample none ["RED", "BLUE"] "\"All\"\nof them")) =
        "enum Color \x7b\n  BLUE\n  RED\n\x7d\n" ++
          "interface Root_of \x7b\n  \"\"\"\n  All\n  of them\n  \"\"\"\n  all: [Color]!\n\x7d" ∧
      sample none ["RED", "BLUE"] "\"All\"\nof them" ≠ sample (some "") ["BLUE", "RED"] "All\nof them" ∧
      (sample none ["RED", "BLUE"] "\"All\"\nof them").entries.map Entry.shown =
        (sample (some "") ["BLUE", "RED"] "All\nof them").entries.map Entry.shown) ∧
    joinBlocks (Pass.blocks (sample none ["RED"] "All")) ≠ joinBlocks (Pass.blocks (sample none ["RED"] "A ll")) ∧
    joinBlocks (Pass.blocks (sample none ["RED"] "All")) ≠
      joinBlocks (Pass.blocks (sample (some "Hues") ["RED"] "All")) := by
  refine ⟨⟨by cbv, by decide, (text_eq_iff_shown_eq _ _ (by decide) (by decide)).mp (by cbv)⟩, ?_, ?_⟩
  · refine mt (text_eq_iff_shown_eq _ _ (by decide) (by decide)).mp ?_
    simp [sample, Entry.shown, Body.shown, Field.shown, said]
  · refine mt (text_eq_iff_shown_eq _ _ (by decide) (by decide)).mp ?_
    simp [sample, Entry.shown, said]

end Registry
end SchemaSdl
