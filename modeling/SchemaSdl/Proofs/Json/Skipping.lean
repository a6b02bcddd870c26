import SchemaSdl.Proofs.Json.Literals
import SchemaSdl.Proofs.Json.Numerals

/-! Values that nothing is known about are passed over, however deep they are. -/

namespace SchemaSdl.Json
open Reader (isBlank opensPlain skipPlain skipLabel skipValueIn skipPartsOf skipRestOf skipValue)
variable {origin input tail mid rest : List UInt8} {b : UInt8} {enclosure : Enclosure} {enclosures : List Enclosure}

/-! ### Values without parts -/

theorem takes_skipPlain_numeral {c : Char} {cs : List Char} (h : IsNumeral (c :: cs)) (hrest : Stops rest) :
    ∃ b, String.utf8EncodeChar c = [b] ∧ (b = 0x2D ∨ isDigit b = true) ∧
      (skipPlain b).Takes (bytes cs ++ rest) () rest := by
  obtain ⟨sign, whole, fraction, exponent, hcs, hsign, hwhole, hfraction, hexponent⟩ := h
  obtain ⟨d, ds, rfl⟩ : ∃ d ds, whole = d :: ds := by
    cases hwhole with
    | zero => exact ⟨_, _, rfl⟩
    | digits => exact ⟨_, _, rfl⟩
  obtain ⟨b, hbytes, hb, hnumber⟩ := Reader.takes_skipNumber hwhole hfraction hexponent hrest
  simp only [List.mem_cons, List.not_mem_nil, or_false] at hsign
  rcases hsign with rfl | rfl
  · obtain ⟨rfl, rfl⟩ := List.cons.inj hcs
    have hword : b ≠ 0x6E ∧ b ≠ 0x74 ∧ b ≠ 0x66 ∧ b ≠ 0x22 ∧ b ≠ 0x2D := by
      refine ⟨?_, ?_, ?_, ?_, ?_⟩ <;> rintro rfl <;> exact absurd hb (by decide)
    obtain ⟨hn, ht, hf, hquote, hminus⟩ := hword
    refine ⟨b, hbytes, .inr hb, ?_⟩
    rw [skipPlain, if_neg hn, if_neg ht, if_neg hf, if_neg hquote, if_neg hminus]
    simpa using hnumber
  · obtain ⟨rfl, rfl⟩ := List.cons.inj hcs
    have hds : bytes (d :: ds ++ fraction ++ exponent) ++ rest =
        b :: (bytes ds ++ (bytes fraction ++ (bytes exponent ++ rest))) := by simp [hbytes]
    refine ⟨0x2D, rfl, .inl rfl, ?_⟩
    rw [skipPlain, if_neg (by decide), if_neg (by decide), if_neg (by decide), if_neg (by decide), if_pos rfl]
    change Reader.Takes _ (bytes (d :: ds ++ fraction ++ exponent) ++ rest) () rest
    rw [hds]
    exact Reader.takes_next.bind hnumber

/-- A value without parts is passed over after its first byte. -/
def PassesPlain (input rest : List UInt8) : Prop :=
  ∃ b tail, input.dropWhile isBlank = b :: tail ∧ b ≠ 0x5B ∧ b ≠ 0x7B ∧ opensPlain b = true ∧
    (skipPlain b).Takes tail () rest

theorem passesPlain_word {c : Char} {cs : List Char} (hlaid : Laid [.word (c :: cs)] input rest)
    (hc : String.utf8EncodeChar c = [b]) (hb : isBlank b = false ∧ b ≠ 0x5B ∧ b ≠ 0x7B ∧ opensPlain b = true)
    (htakes : (skipPlain b).Takes (bytes cs ++ rest) () rest) : PassesPlain input rest := by
  obtain ⟨mid, hinput, hmid⟩ := hlaid.word hc hb.1
  obtain rfl := hmid.eq_of_nil
  exact ⟨b, _, hinput, hb.2.1, hb.2.2.1, hb.2.2.2, htakes⟩

theorem passesPlain_numeral {cs : List Char} (h : IsNumeral cs) (hlaid : Laid [.word cs] input rest)
    (hrest : Stops rest) : PassesPlain input rest := by
  obtain ⟨c, cs, rfl, -⟩ := h.exists_cons
  obtain ⟨b, hbytes, hb, htakes⟩ := takes_skipPlain_numeral h hrest
  refine passesPlain_word hlaid hbytes ?_ htakes
  rcases hb with rfl | hb
  · decide
  · refine ⟨isBlank_of_isDigit hb, ?_, ?_, by simp [opensPlain, hb]⟩ <;> rintro rfl <;> exact absurd hb (by decide)

theorem passesPlain_text {s : String} (hlaid : Laid [.text s] input rest) : PassesPlain input rest := by
  obtain ⟨pieces, mid, hpieces, hinput, hmid⟩ := hlaid.text
  obtain rfl := hmid.eq_of_nil
  exact ⟨0x22, _, hinput, by decide, by decide, by decide, Reader.takes_skipLiteral hpieces⟩

/-! ### Steps -/

section Steps
variable (enclosures) (le : input.length ≤ origin.length)

theorem skipValueIn_of_plain (h : PassesPlain input rest) :
    ∃ le', skipValueIn enclosures input le = skipRestOf enclosures rest le' := by
  obtain ⟨b, tail, hinput, hlist, hobject, hopens, le', htakes⟩ := h
  refine ⟨Nat.le_trans le' (fits_of_dropWhile_eq_cons hinput le), ?_⟩
  rw [skipValueIn]
  refine (Reader.match_front hinput _ _).trans ?_
  rw [if_neg hlist, if_neg hobject, if_pos hopens, htakes]

theorem skipValueIn_of_list (h : input.dropWhile isBlank = 0x5B :: tail) :
    ∃ le', skipValueIn enclosures input le = skipPartsOf .list enclosures tail le' := by
  refine ⟨fits_of_dropWhile_eq_cons h le, ?_⟩
  rw [skipValueIn]
  refine (Reader.match_front h _ _).trans ?_
  rw [if_pos rfl]

theorem skipValueIn_of_object (h : input.dropWhile isBlank = 0x7B :: tail) :
    ∃ le', skipValueIn enclosures input le = skipPartsOf .object enclosures tail le' := by
  refine ⟨fits_of_dropWhile_eq_cons h le, ?_⟩
  rw [skipValueIn]
  refine (Reader.match_front h _ _).trans ?_
  rw [if_neg (by decide), if_pos rfl]

theorem skipPartsOf_close (h : input.dropWhile isBlank = enclosure.close :: rest) :
    ∃ le', skipPartsOf enclosure enclosures input le = skipRestOf enclosures rest le' := by
  refine ⟨fits_of_dropWhile_eq_cons h le, ?_⟩
  rw [skipPartsOf]
  refine (Reader.match_front h _ _).trans ?_
  rw [if_pos rfl]

theorem skipPartsOf_part (h : input.dropWhile isBlank = b :: tail) (hb : b ≠ enclosure.close)
    (htakes : (skipLabel enclosure).Takes input () mid) :
    ∃ le', skipPartsOf enclosure enclosures input le = skipValueIn (enclosure :: enclosures) mid le' := by
  obtain ⟨le', htakes⟩ := htakes
  refine ⟨Nat.le_trans le' le, ?_⟩
  rw [skipPartsOf]
  refine (Reader.match_front h _ _).trans ?_
  rw [if_neg hb, htakes]

theorem skipRestOf_close (h : input.dropWhile isBlank = enclosure.close :: rest) :
    ∃ le', skipRestOf (enclosure :: enclosures) input le = skipRestOf enclosures rest le' := by
  refine ⟨fits_of_dropWhile_eq_cons h le, ?_⟩
  conv => lhs; rw [skipRestOf]
  refine (Reader.match_front h _ _).trans ?_
  rw [if_pos rfl]

theorem skipRestOf_comma (h : input.dropWhile isBlank = 0x2C :: tail)
    (htakes : (skipLabel enclosure).Takes tail () mid) :
    ∃ le', skipRestOf (enclosure :: enclosures) input le = skipValueIn (enclosure :: enclosures) mid le' := by
  obtain ⟨le', htakes⟩ := htakes
  refine ⟨Nat.le_trans le' (fits_of_dropWhile_eq_cons h le), ?_⟩
  have hcomma : (0x2C : UInt8) ≠ enclosure.close := by cases enclosure <;> decide
  rw [skipRestOf]
  refine (Reader.match_front h _ _).trans ?_
  rw [if_neg hcomma, if_pos rfl, htakes]

end Steps

/-! ### Lists and objects -/

/-- The character that ends an enclosure. -/
def Enclosure.closing : Enclosure → Char
  | .list => ']'
  | .object => '\x7d'

/-- The tokens in front of a value in an enclosure. -/
inductive Enclosure.Labels : Enclosure → List Token → Prop
  | item : Labels .list []
  | member (name : String) : Labels .object [.text name, .mark ':']

theorem Laid.closing (h : Laid [.mark enclosure.closing] input rest) :
    input.dropWhile isBlank = enclosure.close :: rest := by
  have hclose : String.utf8EncodeChar enclosure.closing = [enclosure.close] := by cases enclosure <;> rfl
  obtain ⟨mid, hinput, hmid⟩ := h.mark enclosure.close hclose (by cases enclosure <;> rfl)
  rw [hinput, hmid.eq_of_nil]

theorem takes_skipLabel {label : List Token} (hlabel : enclosure.Labels label) (hlaid : Laid label input rest) :
    (skipLabel enclosure).Takes input () rest := by
  cases hlabel with
  | item =>
    obtain rfl := hlaid.eq_of_nil
    exact Reader.takes_pure ()
  | member name =>
    obtain ⟨pieces, mid, hpieces, hinput, hmid⟩ := hlaid.text
    obtain ⟨last, hcolon, hlast⟩ := hmid.mark 0x3A rfl rfl
    obtain rfl := hlast.eq_of_nil
    refine (Reader.takes_peekToken hinput).bind (Reader.takes_skipByte.bind ?_)
    exact (Reader.takes_skipLiteral hpieces).bind ((Reader.takes_peekToken hcolon).bind Reader.takes_skipByte)

/-- A value is passed over inside any enclosures, and reading goes on with what is left of these. -/
def Value.Skips (value : Value) : Prop :=
  ∀ {origin input rest : List UInt8} (enclosures : List Enclosure) (le : input.length ≤ origin.length),
    Laid value.tokens input rest → Stops rest → ∃ le', skipValueIn enclosures input le = skipRestOf enclosures rest le'

/-- A part of a list or an object: what stands in front of the value, and the value. -/
abbrev Part := List Token × Value

def Part.tokens (part : Part) : List Token := part.1 ++ part.2.tokens

variable {parts : List Part}

theorem stops_of_parts
    (h : Laid (parts.flatMap (.mark ',' :: Part.tokens ·) ++ [.mark enclosure.closing]) input rest) : Stops input := by
  cases parts with
  | nil =>
    refine h.stops ?_
    cases enclosure <;> simp [Enclosure.closing]
  | cons => exact h.stops (by simp)

/-- After a value come the parts that are left, each behind a comma, and the end. -/
theorem skipRestOf_parts (hlabels : ∀ part ∈ parts, enclosure.Labels part.1) (hparts : ∀ part ∈ parts, part.2.Skips)
    (enclosures : List Enclosure) (le : input.length ≤ origin.length)
    (h : Laid (parts.flatMap (.mark ',' :: Part.tokens ·) ++ [.mark enclosure.closing]) input rest) :
    ∃ le', skipRestOf (enclosure :: enclosures) input le = skipRestOf enclosures rest le' := by
  induction parts generalizing input with
  | nil => exact skipRestOf_close enclosures le h.closing
  | cons part parts ih =>
    obtain ⟨hlabel, hlabels⟩ := List.forall_mem_cons.mp hlabels
    obtain ⟨hpart, hparts⟩ := List.forall_mem_cons.mp hparts
    rw [List.flatMap_cons, List.append_assoc, List.cons_append, Part.tokens] at h
    obtain ⟨tail, hcomma, htail⟩ := h.mark 0x2C rfl rfl
    obtain ⟨last, hvalue, hlast⟩ := htail.exists_of_append
    obtain ⟨mid, hmid, hvalue⟩ := hvalue.exists_of_append
    obtain ⟨le1, hfirst⟩ := skipRestOf_comma enclosures le hcomma (takes_skipLabel hlabel hmid)
    obtain ⟨le2, hsecond⟩ := hpart (enclosure :: enclosures) le1 hvalue (stops_of_parts hlast)
    obtain ⟨le3, hthird⟩ := ih hlabels hparts le2 hlast
    exact ⟨le3, hfirst.trans (hsecond.trans hthird)⟩

/-- A part does not begin with the end of what encloses it. -/
theorem front_of_part {part : Part} (hlabel : enclosure.Labels part.1) (h : Laid part.tokens input rest) :
    ∃ b tail, input.dropWhile isBlank = b :: tail ∧ b ≠ enclosure.close := by
  obtain ⟨label, value⟩ := part
  cases hlabel with
  | item =>
    obtain ⟨b, tail, hopens, hinput, -⟩ := Value.front h
    exact ⟨b, tail, hinput, Value.Opens.ne_close hopens⟩
  | member name =>
    obtain ⟨pieces, mid, -, hinput, -⟩ := Laid.text h
    exact ⟨0x22, _, hinput, by decide⟩

/-- The parts of a list or an object up to its end. -/
theorem skipPartsOf_parts (hlabels : ∀ part ∈ parts, enclosure.Labels part.1) (hparts : ∀ part ∈ parts, part.2.Skips)
    (enclosures : List Enclosure) (le : input.length ≤ origin.length)
    (h : Laid (separated (parts.map Part.tokens) ++ [.mark enclosure.closing]) input rest) :
    ∃ le', skipPartsOf enclosure enclosures input le = skipRestOf enclosures rest le' := by
  cases parts with
  | nil => exact skipPartsOf_close enclosures le h.closing
  | cons part parts =>
    obtain ⟨hlabel, hlabels⟩ := List.forall_mem_cons.mp hlabels
    obtain ⟨hpart, hparts⟩ := List.forall_mem_cons.mp hparts
    rw [List.map_cons, separated, List.flatMap_map, List.append_assoc] at h
    obtain ⟨last, hfront, hlast⟩ := h.exists_of_append
    obtain ⟨b, tail, hinput, hb⟩ := front_of_part hlabel hfront
    obtain ⟨mid, hmid, hvalue⟩ := hfront.exists_of_append
    obtain ⟨le1, hfirst⟩ := skipPartsOf_part enclosures le hinput hb (takes_skipLabel hlabel hmid)
    obtain ⟨le2, hsecond⟩ := hpart (enclosure :: enclosures) le1 hvalue (stops_of_parts hlast)
    obtain ⟨le3, hthird⟩ := skipRestOf_parts hlabels hparts enclosures le2 hlast
    exact ⟨le3, hfirst.trans (hsecond.trans hthird)⟩

/-! ### Values -/

/-- Every value is passed over, along what it is made of. -/
theorem Value.skips (value : Value) : value.Skips := by
  -- The claim is about any enclosures around the value, so that it holds of a part behind those of its parent.
  induction value using Value.induction with
  | null =>
    intro origin input rest enclosures le h hrest
    refine skipValueIn_of_plain enclosures le (passesPlain_word h rfl (by decide) ?_)
    exact Reader.takes_wordRest [0x75, 0x6C, 0x6C]
  | boolean value =>
    intro origin input rest enclosures le h hrest
    refine skipValueIn_of_plain enclosures le ?_
    cases value with
    | false => exact passesPlain_word h rfl (by decide) (Reader.takes_wordRest [0x61, 0x6C, 0x73, 0x65])
    | true => exact passesPlain_word h rfl (by decide) (Reader.takes_wordRest [0x72, 0x75, 0x65])
  | number numeral =>
    intro origin input rest enclosures le h hrest
    exact skipValueIn_of_plain enclosures le (passesPlain_numeral numeral.2 h hrest)
  | text s =>
    intro origin input rest enclosures le h hrest
    exact skipValueIn_of_plain enclosures le (passesPlain_text h)
  | list items ih =>
    intro origin input rest enclosures le h hrest
    have hlabels : ∀ part ∈ items.map fun item => (([], item) : Part), Enclosure.list.Labels part.1 :=
      List.forall_mem_map.mpr fun _ _ => .item
    have hparts : itemTokens items = (items.map fun item => (([], item) : Part)).map Part.tokens := by
      rw [itemTokens_eq, List.map_map]
      rfl
    rw [tokens, hparts] at h
    obtain ⟨tail, hbracket, htail⟩ := Laid.mark h 0x5B rfl rfl
    obtain ⟨le1, hfirst⟩ := skipValueIn_of_list enclosures le hbracket
    obtain ⟨le2, hsecond⟩ := skipPartsOf_parts hlabels (List.forall_mem_map.mpr ih) enclosures le1 htail
    exact ⟨le2, hfirst.trans hsecond⟩
  | object members ih =>
    intro origin input rest enclosures le h hrest
    have hlabels : ∀ part ∈ members.map fun member => (([.text member.1, .mark ':'], member.2) : Part),
        Enclosure.object.Labels part.1 :=
      List.forall_mem_map.mpr fun member _ => .member member.1
    have hparts : memberTokens members =
        (members.map fun member => (([.text member.1, .mark ':'], member.2) : Part)).map Part.tokens := by
      rw [memberTokens_eq, List.map_map]
      rfl
    rw [tokens, hparts] at h
    obtain ⟨tail, hbracket, htail⟩ := Laid.mark h 0x7B rfl rfl
    obtain ⟨le1, hfirst⟩ := skipValueIn_of_object enclosures le hbracket
    obtain ⟨le2, hsecond⟩ := skipPartsOf_parts hlabels (List.forall_mem_map.mpr ih) enclosures le1 htail
    exact ⟨le2, hfirst.trans hsecond⟩

/-- A value that nothing is known about is passed over as a whole. -/
theorem takes_skipValue {value : Value} (h : Laid value.tokens input rest) (hrest : Stops rest) :
    skipValue.Takes input () rest := by
  obtain ⟨le, hskip⟩ := value.skips [] (Nat.le_refl input.length) h hrest
  refine ⟨le, ?_⟩
  rw [skipValue, Reader.afresh, hskip, skipRestOf]

end SchemaSdl.Json
