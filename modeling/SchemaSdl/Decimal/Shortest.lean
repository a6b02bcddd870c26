/-! The shortest decimal digits that read back as a given binary floating point number. -/

namespace SchemaSdl.Decimal

/-- A positive finite binary number m · 2 ^ q with the room that rounding leaves around it. -/
structure Binary where
  significand : Nat
  exponent : Int
  /-- The number below is only half as far away as the one above. -/
  narrowBelow : Bool

/-- Digits d and a place k that stand for d · 10 ^ k. -/
structure Digits where
  digits : Nat
  place : Int
deriving DecidableEq

namespace Binary

/-- The number with these bits, the sign left out. Not for zero, infinities and what is not a number. -/
def ofBits (bits : UInt64) : Binary :=
  let fraction : Nat := bits.toNat % Nat.pow 2 52
  let biased : Nat := bits.toNat / Nat.pow 2 52 % Nat.pow 2 11
  if biased = 0 then ⟨fraction, -1074, false⟩
  else ⟨Nat.pow 2 52 + fraction, (biased : Int) - 1075, fraction = 0 && biased ≠ 1⟩

/-- A fraction equal to x · 2 ^ q · 10 ^ k. -/
def ratio (x : Nat) (q k : Int) : Nat × Nat :=
  (x * Nat.pow 2 q.toNat * Nat.pow 10 k.toNat, Nat.pow 2 (-q).toNat * Nat.pow 10 (-k).toNat)

/-- The exponent of the leading decimal digit. -/
def leading (b : Binary) : Int :=
  let (numerator, denominator) := ratio b.significand b.exponent 0
  if denominator ≤ numerator then ((Nat.toDigits 10 (numerator / denominator)).length : Int) - 1
  else
    match (List.range 400).find? fun j => denominator ≤ numerator * Nat.pow 10 j with
    | some j => -(j : Int)
    | none => 0

/-- Whether d · 10 ^ k rounds to the number. The ends of the interval count for an even significand. -/
def holds (b : Binary) (d : Nat) (k : Int) : Bool :=
  let (numerator, denominator) := ratio d (2 - b.exponent) k
  let low := (4 * b.significand - if b.narrowBelow then 1 else 2) * denominator
  let high := (4 * b.significand + 2) * denominator
  if b.significand % 2 = 0 then low ≤ numerator && numerator ≤ high else low < numerator && numerator < high

/-- The nearer of the two neighbours with n digits, if it rounds to the number. -/
def withDigits? (b : Binary) (n : Nat) : Option Digits :=
  let k := b.leading - n + 1
  let (numerator, denominator) := ratio b.significand b.exponent (-k)
  let d := numerator / denominator
  let below := 2 * (numerator - d * denominator)
  match b.holds d k, b.holds (d + 1) k with
  | true, true => if below < denominator || (below = denominator && d % 2 = 0) then some ⟨d, k⟩ else some ⟨d + 1, k⟩
  | true, false => some ⟨d, k⟩
  | false, true => some ⟨d + 1, k⟩
  | false, false => none

/-- Fewest digits first; seventeen always suffice. -/
def shortest (b : Binary) : Digits :=
  ((List.range 17).findSome? fun n => b.withDigits? (n + 1)).getD ⟨b.significand, 0⟩

end Binary

/-- How a number is spelled: where positional notation begins and ends, and what an exponent looks like. -/
structure Spelling where
  /-- The least number of places before the point that positional notation allows, exclusive. -/
  above : Int
  /-- The greatest number of places before the point that positional notation allows. -/
  upTo : Int
  /-- What stands before the digits of an exponent that is not negative. -/
  exponentMark : String
  /-- What stands before the digits of a negative exponent. -/
  negativeMark : String

namespace Spelling

/-- The text of digits that do not end in zero. -/
def digitsText (s : Spelling) (digits : Digits) : String :=
  let shown := (Nat.toDigits 10 digits.digits)
  let before := (shown.length : Int) + digits.place
  if 0 ≤ digits.place && before ≤ s.upTo then
    String.ofList (shown ++ List.replicate digits.place.toNat '0') ++ ".0"
  else if 0 < before && before ≤ s.upTo then
    String.ofList (shown.take before.toNat) ++ "." ++ String.ofList (shown.drop before.toNat)
  else if s.above < before && before ≤ 0 then
    "0." ++ String.ofList (List.replicate (-before).toNat '0' ++ shown)
  else
    let exponent := before - 1
    let mark := if exponent < 0 then s.negativeMark else s.exponentMark
    let fraction := if shown.length = 1 then "" else "." ++ String.ofList (shown.drop 1)
    String.ofList (shown.take 1) ++ fraction ++ mark ++ toString exponent.natAbs

/-- Digits without the zeros at their end. -/
def trimmed (fuel : Nat) (digits : Digits) : Digits :=
  match fuel with
  | 0 => digits
  | fuel + 1 => if digits.digits % 10 = 0 then trimmed fuel ⟨digits.digits / 10, digits.place + 1⟩ else digits

/-- The text of a finite number. -/
def text (s : Spelling) (x : Float) : String :=
  let bits := x.toBits
  let sign := if bits.toNat / Nat.pow 2 63 = 1 then "-" else ""
  if bits.toNat % Nat.pow 2 63 = 0 then sign ++ "0.0"
  else
    let shortest := (Binary.ofBits bits).shortest
    sign ++ s.digitsText (trimmed 400 shortest)

end Spelling
end SchemaSdl.Decimal
