import SchemaSdl.Decimal.Shortest
import SchemaSdl.Text.Quoted

/-! What can be wrong with a JSON text, where it is wrong, and how that is worded. -/

namespace SchemaSdl.Json

/-- One step from a value into a value inside it. -/
inductive Step where
  | key (name : String)
  | index (n : Nat)
  /-- A member whose name could not be read. -/
  | unknown
deriving DecidableEq

namespace Step

/-- The text of a step, which starts with a point unless it is an index or comes first. -/
def text (first : Bool) : Step → String
  | .key name => (if first then "" else ".") ++ name
  | .index n => "[" ++ toString n ++ "]"
  | .unknown => (if first then "" else ".") ++ "?"

/-- The text of the steps to a value, outermost first; the text itself is a single point. -/
def pathText : List Step → String
  | [] => "."
  | step :: rest => step.text true ++ String.join (rest.map (text false))

end Step

/-- A number as it was read: a whole number that fits its range, or a floating point number. -/
inductive Number where
  | natural (n : Nat)
  | negative (n : Nat)
  | float (x : Float)

/-- Up to sixteen places before the point are written in full, and up to four zeros after it. -/
def floatSpelling : Decimal.Spelling := ⟨-5, 16, "e+", "e-"⟩

/-- The kind of value that was found. -/
inductive Found where
  | null
  | boolean (value : Bool)
  | number (number : Number)
  | text (text : String)
  | list
  | object

/-- The text of a value that was found. -/
def Found.describe : Found → String
  | .null => "null"
  | .boolean value => "boolean " ++ Text.backquoted (if value then "true" else "false")
  | .number (.natural n) => "integer " ++ Text.backquoted (toString n)
  | .number (.negative n) => "integer " ++ Text.backquoted ("-" ++ toString n)
  | .number (.float x) => "floating point " ++ Text.backquoted (floatSpelling.text x)
  | .text s => "string " ++ Text.quoted s
  | .list => "sequence"
  | .object => "map"

/-- What is wrong. -/
inductive Cause where
  | endInValue
  | endInList
  | endInObject
  | endInText
  | colonMissing
  | listCommaMissing
  | objectCommaMissing
  | wordBroken
  | valueMissing
  | escapeBroken
  | numberBroken
  | numberTooLarge
  | codePointBroken
  | controlCharacter
  | keyNotText
  | surrogateAlone
  | commaTrailing
  | textTrailing
  | escapeCut
  | tooDeep
  | wrongKind (found : Found) (expected : String)
  | wrongLength (found : Nat) (expected : String)
  | repeatedMember (name : String)
  | absentMember (name : String)

/-- The wording of a cause. -/
def Cause.message : Cause → String
  | .endInValue => "EOF while parsing a value"
  | .endInList => "EOF while parsing a list"
  | .endInObject => "EOF while parsing an object"
  | .endInText => "EOF while parsing a string"
  | .colonMissing => "expected " ++ Text.backquoted ":"
  | .listCommaMissing => "expected " ++ Text.backquoted "," ++ " or " ++ Text.backquoted "]"
  | .objectCommaMissing => "expected " ++ Text.backquoted "," ++ " or " ++ Text.backquoted "\x7d"
  | .wordBroken => "expected ident"
  | .valueMissing => "expected value"
  | .escapeBroken => "invalid escape"
  | .numberBroken => "invalid number"
  | .numberTooLarge => "number out of range"
  | .codePointBroken => "invalid unicode code point"
  | .controlCharacter => "control character (\\u0000-\\u001F) found while parsing a string"
  | .keyNotText => "key must be a string"
  | .surrogateAlone => "lone leading surrogate in hex escape"
  | .commaTrailing => "trailing comma"
  | .textTrailing => "trailing characters"
  | .escapeCut => "unexpected end of hex escape"
  | .tooDeep => "recursion limit exceeded"
  | .wrongKind found expected => "invalid type: " ++ found.describe ++ ", expected " ++ expected
  | .wrongLength found expected => "invalid length " ++ toString found ++ ", expected " ++ expected
  | .repeatedMember name => "duplicate field " ++ Text.backquoted name
  | .absentMember name => "missing field " ++ Text.backquoted name

/-- A place in a text: lines from one, and the bytes read of the line. -/
structure Position where
  line : Nat
  column : Nat
deriving DecidableEq

namespace Position

/-- The place after some bytes. -/
def after (bytes : List UInt8) : Position :=
  bytes.foldl (fun p b => if b = 0x0A then ⟨p.line + 1, 0⟩ else ⟨p.line, p.column + 1⟩) ⟨1, 0⟩

/-- The text that follows the wording of a fault. -/
def text (p : Position) : String := " at line " ++ toString p.line ++ " column " ++ toString p.column

end Position

/-- What is wrong with a text and where: the steps to the value, outermost first, and the place. -/
structure Fault where
  path : List Step
  cause : Cause
  position : Position

/-- The wording of a fault, with its place. -/
def Fault.message (fault : Fault) : String := fault.cause.message ++ fault.position.text

end SchemaSdl.Json
