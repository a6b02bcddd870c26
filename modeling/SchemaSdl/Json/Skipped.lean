import SchemaSdl.Json.Literal
import SchemaSdl.Json.Number

/-! Values that nothing is known about. They are checked and passed over, to any depth. -/

namespace SchemaSdl.Json

/-- What encloses a value that is passed over. -/
inductive Enclosure where
  | list
  | object

namespace Enclosure

/-- The byte that ends an enclosure. -/
def close : Enclosure → UInt8
  | .list => 0x5D
  | .object => 0x7D

/-- The cause when the text ends inside. -/
def ended : Enclosure → Cause
  | .list => .endInList
  | .object => .endInObject

/-- The cause when a value is followed neither by a comma nor by the end. -/
def commaMissing : Enclosure → Cause
  | .list => .listCommaMissing
  | .object => .objectCommaMissing

end Enclosure

namespace Reader

/-- Passes over the name of a member and the colon after it; values in a list have neither. -/
def skipLabel : Enclosure → Reader Unit
  | .list => pure ()
  | .object => do
    match ← peekToken with
    | some 0x22 =>
      skipByte
      skipLiteral
      match ← peekToken with
      | some 0x3A => skipByte
      | some _ => failAtNext .colonMissing
      | none => failAtNext .endInObject
    | some _ => failAtNext .keyNotText
    | none => failAtNext .endInObject

/-- Passes over what follows the first byte of a value without parts. -/
def skipPlain (first : UInt8) : Reader Unit :=
  if first = 0x6E then wordRest [0x75, 0x6C, 0x6C]
  else if first = 0x74 then wordRest [0x72, 0x75, 0x65]
  else if first = 0x66 then wordRest [0x61, 0x6C, 0x73, 0x65]
  else if first = 0x22 then skipLiteral
  else if first = 0x2D then do
    match ← next with
    | some b => skipNumber b
    | none => fail .numberBroken
  else skipNumber first

/-- The first byte of a value without parts. -/
def opensPlain (b : UInt8) : Bool :=
  b == 0x6E || b == 0x74 || b == 0x66 || b == 0x22 || b == 0x2D || isDigit b

mutual

/-- Passes over a value inside some enclosures, innermost first, and over what is left of them. -/
def skipValueIn {origin : List UInt8} (enclosures : List Enclosure) (input : List UInt8)
    (le : input.length ≤ origin.length) : Except Failure (Taken origin Unit) :=
  match h : input.dropWhile isBlank with
  | [] => .error ⟨[], .endInValue, 0⟩
  | b :: rest =>
    have fits := fits_of_dropWhile_eq_cons h le
    if b = 0x5B then skipPartsOf .list enclosures rest fits
    else if b = 0x7B then skipPartsOf .object enclosures rest fits
    else if opensPlain b then
      match skipPlain b rest with
      | .error failure => .error failure
      | .ok taken => skipRestOf enclosures taken.rest (taken.fits fits)
    else .error ⟨[], .valueMissing, rest.length⟩
termination_by (input.length, 0)
decreasing_by
  · exact Prod.Lex.left _ _ (length_of_dropWhile_eq_cons h)
  · exact Prod.Lex.left _ _ (length_of_dropWhile_eq_cons h)
  · exact Prod.Lex.left _ _ (Nat.lt_of_le_of_lt taken.length_le (length_of_dropWhile_eq_cons h))

/-- Passes over an enclosure after its opening bracket. -/
def skipPartsOf {origin : List UInt8} (enclosure : Enclosure) (enclosures : List Enclosure) (input : List UInt8)
    (le : input.length ≤ origin.length) : Except Failure (Taken origin Unit) :=
  match h : input.dropWhile isBlank with
  | [] => .error ⟨[], enclosure.ended, 0⟩
  | b :: rest =>
    if b = enclosure.close then skipRestOf enclosures rest (fits_of_dropWhile_eq_cons h le)
    else
      match skipLabel enclosure input with
      | .error failure => .error failure
      | .ok taken => skipValueIn (enclosure :: enclosures) taken.rest (taken.fits le)
termination_by (input.length, 1)
decreasing_by
  · exact Prod.Lex.left _ _ (length_of_dropWhile_eq_cons h)
  · rcases Nat.lt_or_eq_of_le taken.length_le with lt | eq
    · exact Prod.Lex.left _ _ lt
    · rw [eq]
      exact Prod.Lex.right _ Nat.zero_lt_one

/-- Passes over what follows a value inside some enclosures. -/
def skipRestOf {origin : List UInt8} (enclosures : List Enclosure) (input : List UInt8)
    (le : input.length ≤ origin.length) : Except Failure (Taken origin Unit) :=
  match enclosures with
  | [] => .ok ⟨(), input, le⟩
  | enclosure :: outer =>
    match h : input.dropWhile isBlank with
    | [] => .error ⟨[], enclosure.ended, 0⟩
    | b :: rest =>
      have fits := fits_of_dropWhile_eq_cons h le
      if b = enclosure.close then skipRestOf outer rest fits
      else if b = 0x2C then
        match skipLabel enclosure rest with
        | .error failure => .error failure
        | .ok taken => skipValueIn (enclosure :: outer) taken.rest (taken.fits fits)
      else .error ⟨[], enclosure.commaMissing, rest.length⟩
termination_by (input.length, 0)
decreasing_by
  · exact Prod.Lex.left _ _ (length_of_dropWhile_eq_cons h)
  · exact Prod.Lex.left _ _ (Nat.lt_of_le_of_lt taken.length_le (length_of_dropWhile_eq_cons h))

end

/-- Passes over a value. -/
def skipValue : Reader Unit := afresh fun input => skipValueIn [] input

end Reader
end SchemaSdl.Json
