import SchemaSdl.Json.Reader

/-! Numbers in JSON text: their value where a message shows it, and their grammar where they are skipped. -/

namespace SchemaSdl.Json

/-- A decimal digit in ASCII. -/
def isDigit (b : UInt8) : Bool := 0x30 ≤ b && b ≤ 0x39

/-- The value of a digit. -/
def digitValue (b : UInt8) : Nat := b.toNat - 0x30

/-- Reads digits into a number as long as it stays within a limit; the digits after those are left over. -/
def accumulate (limit : Nat) (value : Nat) : List UInt8 → Nat × List UInt8
  | [] => (value, [])
  | b :: rest =>
    if value * 10 + digitValue b ≤ limit then accumulate limit (value * 10 + digitValue b) rest else (value, b :: rest)

/-- The greatest significand. -/
def significandLimit : Nat := Nat.pow 2 64 - 1

/-- The greatest exponent. -/
def exponentLimit : Nat := Nat.pow 2 31 - 1

/-- A significand times a power of ten, by as few multiplications or divisions as the powers up to 308 allow. -/
def scaled (x : Float) (exponent : Int) : Option Float :=
  if exponent.natAbs ≤ 308 then
    let power := Float.ofScientific 1 false exponent.natAbs
    if 0 ≤ exponent then
      let y := x * power
      if y.isInf then none else some y
    else some (x / power)
  else if x == 0 then some x
  else if 0 ≤ exponent then none
  else scaled (x / Float.ofScientific 1 false 308) (exponent + 308)
termination_by (-exponent).toNat
decreasing_by omega

namespace Reader

/-- A floating point number with its sign. -/
def float (positive : Bool) (significand : Nat) (exponent : Int) : Reader Number :=
  match scaled significand.toUInt64.toFloat exponent with
  | some x => pure (.float (if positive then x else -x))
  | none => fail .numberTooLarge

/-- An exponent that is too large: the number is zero unless it is too large itself. -/
def hugeExponent (positive zero positiveExponent : Bool) (unused : List UInt8) : Reader Number :=
  if !zero && positiveExponent then failBefore (unused.length - 1) .numberTooLarge
  else pure (.float (if positive then 0.0 else -0.0))

/-- Reads an exponent from its mark on. -/
def exponentPart (positive : Bool) (significand : Nat) (start : Int) : Reader Number := do
  skipByte
  let sign ← takeSign
  match ← next with
  | none => fail .endInValue
  | some b =>
    if isDigit b then
      let digits ← takeWhile isDigit
      let (exponent, unused) := accumulate exponentLimit (digitValue b) digits
      if unused.isEmpty then float positive significand (if sign then start + exponent else start - exponent)
      else hugeExponent positive (significand = 0) sign unused
    else fail .numberBroken
where
  /-- A plus sign or none is positive. -/
  takeSign : Reader Bool := do
    match ← peek with
    | some 0x2B => do skipByte; pure true
    | some 0x2D => do skipByte; pure false
    | _ => pure true

/-- What may follow the fraction. -/
def afterFraction (positive : Bool) (significand : Nat) (exponent : Int) : Reader Number := do
  match ← peek with
  | some 0x65 | some 0x45 => exponentPart positive significand exponent
  | _ => float positive significand exponent

/-- Reads a fraction from its point on. Digits beyond the limit of the significand are dropped. -/
def fractionPart (positive : Bool) (significand : Nat) (exponent : Int) : Reader Number := do
  skipByte
  let digits ← takeWhile isDigit
  if digits.isEmpty then
    match ← peek with
    | some _ => failAtNext .numberBroken
    | none => failAtNext .endInValue
  else
    let (significand', unused) := accumulate significandLimit significand digits
    afterFraction positive significand' (exponent - (digits.length - unused.length : Nat))

/-- What may follow a whole number that fits the significand. -/
def afterWhole (positive : Bool) (significand : Nat) : Reader Number := do
  match ← peek with
  | some 0x2E => fractionPart positive significand 0
  | some 0x65 | some 0x45 => exponentPart positive significand 0
  | _ =>
    if positive then pure (.natural significand)
    else if significand = 0 || Nat.pow 2 63 < significand then pure (.float (-significand.toUInt64.toFloat))
    else pure (.negative significand)

/-- What may follow a whole number of which some digits were left over. -/
def afterLongWhole (positive : Bool) (significand exponent : Nat) : Reader Number := do
  match ← peek with
  | some 0x2E => fractionPart positive significand exponent
  | some 0x65 | some 0x45 => exponentPart positive significand exponent
  | _ => float positive significand exponent

/-- Reads a number after its sign. -/
def number (positive : Bool) : Reader Number := do
  match ← next with
  | none => fail .endInValue
  | some 0x30 =>
    match ← peek with
    | some b => if isDigit b then failAtNext .numberBroken else afterWhole positive 0
    | none => afterWhole positive 0
  | some b =>
    if isDigit b then
      let digits ← takeWhile isDigit
      let (significand, unused) := accumulate significandLimit (digitValue b) digits
      if unused.isEmpty then afterWhole positive significand
      else afterLongWhole positive significand unused.length
    else fail .numberBroken

/-! ### Numbers that are passed over -/

/-- Passes over an exponent from its mark on. -/
def skipExponent : Reader Unit := do
  skipByte
  match ← peek with
  | some 0x2B | some 0x2D => skipByte
  | _ => pure ()
  match ← next with
  | some b => if isDigit b then skipWhile isDigit else fail .numberBroken
  | none => fail .numberBroken

/-- Passes over a fraction from its point on. -/
def skipFraction : Reader Unit := do
  skipByte
  let digits ← takeWhile isDigit
  if digits.isEmpty then failAtNext .numberBroken
  else
    match ← peek with
    | some 0x65 | some 0x45 => skipExponent
    | _ => pure ()

/-- Passes over what may follow a whole number. -/
def skipAfterWhole : Reader Unit := do
  match ← peek with
  | some 0x2E => skipFraction
  | some 0x65 | some 0x45 => skipExponent
  | _ => pure ()

/-- Passes over a number after its first digit. -/
def skipNumber (first : UInt8) : Reader Unit := do
  if first = 0x30 then
    match ← peek with
    | some b => if isDigit b then failAtNext .numberBroken else skipAfterWhole
    | none => skipAfterWhole
  else if isDigit first then
    skipWhile isDigit
    skipAfterWhole
  else fail .numberBroken

end Reader
end SchemaSdl.Json
