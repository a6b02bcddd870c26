import SchemaSdl.Json.Reader

/-! String literals in JSON text, read from behind their opening quote. -/

namespace SchemaSdl.Json

/-! ### Characters in bytes -/

/-- The payload of a byte that continues a character. -/
def continuation? (b : UInt8) : Option Nat := if b.toNat / 64 = 2 then some (b.toNat % 64) else none

/-- A code point written in some number of bytes, unless fewer would do or it is a surrogate or too large. -/
def scalarValue? (least n : Nat) : Option Char :=
  if least ≤ n then (if h : n.isValidChar then some (Char.ofNatAux n h) else none) else none

/-- The character at the front of some bytes and how many of them it takes. -/
def character? : List UInt8 → Option (Char × Nat)
  | [] => none
  | b :: rest =>
    let n := b.toNat
    if n < 0x80 then (scalarValue? 0 n).map (·, 1)
    else if n / 32 = 6 then do
      let [b1] := rest.take 1 | none
      let c ← scalarValue? 0x80 (n % 32 * 64 + (← continuation? b1))
      return (c, 2)
    else if n / 16 = 14 then do
      let [b1, b2] := rest.take 2 | none
      let c ← scalarValue? 0x800 ((n % 16 * 64 + (← continuation? b1)) * 64 + (← continuation? b2))
      return (c, 3)
    else if n / 8 = 30 then do
      let [b1, b2, b3] := rest.take 3 | none
      let c ← scalarValue? 0x10000
        (((n % 8 * 64 + (← continuation? b1)) * 64 + (← continuation? b2)) * 64 + (← continuation? b3))
      return (c, 4)
    else none

/-- The value of a hexadecimal digit. -/
def hexValue? (b : UInt8) : Option Nat :=
  let n := b.toNat
  if 0x30 ≤ n && n ≤ 0x39 then some (n - 0x30)
  else if 0x41 ≤ n && n ≤ 0x46 then some (n - 0x37)
  else if 0x61 ≤ n && n ≤ 0x66 then some (n - 0x57)
  else none

/-- The number that four hexadecimal digits write. -/
def hexNumber? : List UInt8 → Option Nat :=
  List.foldlM (fun n b => do return n * 16 + (← hexValue? b)) 0

/-- The character of an escape by letter. -/
def escapeLetter? (b : UInt8) : Option Char :=
  if b = 0x22 then some '"'
  else if b = 0x5C then some '\\'
  else if b = 0x2F then some '/'
  else if b = 0x62 then some '\x08'
  else if b = 0x66 then some '\x0c'
  else if b = 0x6E then some '\n'
  else if b = 0x72 then some '\r'
  else if b = 0x74 then some '\t'
  else none

/-- The character of a leading and a trailing surrogate. -/
def surrogatePair (leading trailing : Nat) : Char :=
  Char.ofNat (0x10000 + (leading - 0xD800) * 0x400 + (trailing - 0xDC00))

namespace Reader

/-- Reads the four hexadecimal digits of an escape. -/
def hexEscape : Reader Nat := fun input =>
  if (input.take 4).length < 4 then .error ⟨[], .endInText, 0⟩
  else
    match hexNumber? (input.take 4) with
    | some n => .ok ⟨n, input.drop 4, by simp⟩
    | none => .error ⟨[], .escapeBroken, input.length - 4⟩

/-- Reads a byte that the second half of an escape has to have. -/
def escapeByte (expected : UInt8) : Reader Unit := do
  match ← next with
  | none => fail .endInText
  | some b => if b = expected then pure () else fail .escapeCut

/-- Reads an escape by code point. A leading surrogate needs a trailing one behind it, a trailing one may not
stand alone. -/
def codePointEscape : Reader Char := do
  let n ← hexEscape
  if 0xDC00 ≤ n && n ≤ 0xDFFF then fail .surrogateAlone
  else if 0xD800 ≤ n && n ≤ 0xDBFF then
    escapeByte 0x5C
    escapeByte 0x75
    let trailing ← hexEscape
    if 0xDC00 ≤ trailing && trailing ≤ 0xDFFF then pure (surrogatePair n trailing) else fail .surrogateAlone
  else pure (Char.ofNat n)

/-- Reads an escape after its backslash. -/
def escape : Reader Char := do
  match ← next with
  | none => fail .endInText
  | some 0x75 => codePointEscape
  | some b =>
    match escapeLetter? b with
    | some c => pure c
    | none => fail .escapeBroken

/-- Reads on in a literal. The characters read so far come latest first; the first byte that is not a character
is reported only when the literal is otherwise sound. -/
def literalFrom {origin : List UInt8} (chars : List Char) (broken : Option Nat) (input : List UInt8)
    (le : input.length ≤ origin.length) : Except Failure (Taken origin String) :=
  match input with
  | [] => .error ⟨[], .endInText, 0⟩
  | b :: rest =>
    if b = 0x22 then
      match broken with
      | none => .ok ⟨String.ofList chars.reverse, rest, by simp at le; omega⟩
      | some unread => .error ⟨[], .codePointBroken, unread⟩
    else if b = 0x5C then
      match escape rest with
      | .error failure => .error failure
      | .ok taken =>
        literalFrom (taken.value :: chars) broken taken.rest (by have := taken.length_le; simp at le; omega)
    else if b < 0x20 then .error ⟨[], .controlCharacter, rest.length⟩
    else
      match character? (b :: rest) with
      | some (c, width) => literalFrom (c :: chars) broken (rest.drop (width - 1)) (by simp at le ⊢; omega)
      | none => literalFrom chars (broken <|> some rest.length) rest (by simp at le; omega)
termination_by input.length
decreasing_by
  · have := taken.length_le
    rw [List.length_cons]
    omega
  · rw [List.length_drop, List.length_cons]
    omega
  · exact Nat.lt_succ_self _

/-- Reads a literal after its opening quote. -/
def literal : Reader String := afresh fun input => literalFrom [] none input

/-- Passes over an escape after its backslash. Any four hexadecimal digits will do. -/
def skipEscape : Reader Unit := do
  match ← next with
  | none => fail .endInText
  | some 0x75 => let _ ← hexEscape; pure ()
  | some b => if (escapeLetter? b).isSome then pure () else fail .escapeBroken

/-- Passes over what is left of a literal. Its bytes need not be characters. -/
def skipLiteralFrom {origin : List UInt8} (input : List UInt8) (le : input.length ≤ origin.length) :
    Except Failure (Taken origin Unit) :=
  match input with
  | [] => .error ⟨[], .endInText, 0⟩
  | b :: rest =>
    if b = 0x22 then .ok ⟨(), rest, by simp at le; omega⟩
    else if b = 0x5C then
      match skipEscape rest with
      | .error failure => .error failure
      | .ok taken => skipLiteralFrom taken.rest (by have := taken.length_le; simp at le; omega)
    else if b < 0x20 then .error ⟨[], .controlCharacter, rest.length + 1⟩
    else skipLiteralFrom rest (by simp at le; omega)
termination_by input.length
decreasing_by
  · exact Nat.lt_succ_of_le taken.length_le
  · exact Nat.lt_succ_self _

/-- Passes over a literal after its opening quote. -/
def skipLiteral : Reader Unit := afresh fun input => skipLiteralFrom input

end Reader
end SchemaSdl.Json
