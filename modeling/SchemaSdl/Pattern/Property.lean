import SchemaSdl.Pattern.CharSet
import SchemaSdl.Text.Unicode.Category
import SchemaSdl.Text.Unicode.Property
import SchemaSdl.Text.Unicode.Script

/-! Sets of characters by the names of their properties. -/

namespace SchemaSdl.Pattern

/-- Why a name stands for no property. -/
inductive PropertyFault where
  | unknownProperty
  | unknownValue
deriving DecidableEq

namespace Property

/-- A name in the form in which names are compared: lower case ASCII without blanks, underscores, hyphens and an
"is" at the front. -/
def normalized (name : String) : String :=
  let chars := name.toList
  let begun := (chars.take 2).map Char.toLower = ['i', 's']
  let rest := ((if begun then chars.drop 2 else chars).filter fun c =>
    c ≠ ' ' && c ≠ '_' && c ≠ '-' && c.toNat ≤ 0x7F).map Char.toLower
  if begun && rest = ['c'] then "isc" else String.ofList rest

/-- General categories with their names. A category of one letter holds all those that begin with it. -/
def categories : List (String × List String) :=
  [("C", ["Other"]), ("Cc", ["Control", "cntrl"]), ("Cf", ["Format"]), ("Cn", ["Unassigned"]),
   ("Co", ["Private_Use"]), ("Cs", ["Surrogate"]), ("L", ["Letter"]), ("LC", ["Cased_Letter"]),
   ("Ll", ["Lowercase_Letter"]), ("Lm", ["Modifier_Letter"]), ("Lo", ["Other_Letter"]),
   ("Lt", ["Titlecase_Letter"]), ("Lu", ["Uppercase_Letter"]), ("M", ["Mark", "Combining_Mark"]),
   ("Mc", ["Spacing_Mark"]), ("Me", ["Enclosing_Mark"]), ("Mn", ["Nonspacing_Mark"]), ("N", ["Number"]),
   ("Nd", ["Decimal_Number", "digit"]), ("Nl", ["Letter_Number"]), ("No", ["Other_Number"]),
   ("P", ["Punctuation", "punct"]), ("Pc", ["Connector_Punctuation"]), ("Pd", ["Dash_Punctuation"]),
   ("Pe", ["Close_Punctuation"]), ("Pf", ["Final_Punctuation"]), ("Pi", ["Initial_Punctuation"]),
   ("Po", ["Other_Punctuation"]), ("Ps", ["Open_Punctuation"]), ("S", ["Symbol"]), ("Sc", ["Currency_Symbol"]),
   ("Sk", ["Modifier_Symbol"]), ("Sm", ["Math_Symbol"]), ("So", ["Other_Symbol"]), ("Z", ["Separator"]),
   ("Zl", ["Line_Separator"]), ("Zp", ["Paragraph_Separator"]), ("Zs", ["Space_Separator"])]

/-- The characters of a general category. -/
def categorySet (short : String) : CharSet :=
  let wanted := fun (label : String) =>
    if short = "LC" then ["Lu", "Ll", "Lt"].contains label
    else if short.length = 1 then label.toList.take 1 = short.toList
    else label = short
  .ofRanges (Text.categoryRuns.ranges wanted)

/-- A general category, or one of three sets that are named like one. -/
def category? (name : String) : Option CharSet :=
  if name = "any" then some .all
  else if name = "ascii" then some .ascii
  else if name = "assigned" then some (categorySet "Cn").complement
  else
    (categories.find? fun (short, names) => normalized short = name || names.any (normalized · = name)).map fun found =>
      categorySet found.1

/-- A script. Two private codes stand for a script of another name. -/
def script? (name : String) : Option CharSet :=
  let name := if name = "qaac" then "copt" else if name = "qaai" then "zinh" else name
  (Text.scriptNames.find? fun (short, long) => normalized short = name || normalized long = name).map fun found =>
    .ofRanges (Text.scriptRanges found.1)

/-- A binary property. -/
def binary? (name : String) : Option CharSet :=
  if name = "graphemeextend" || name = "grext" then some (.ofRanges (Text.graphemeExtendRuns.ranges (· == "Y")))
  else
    (Text.binaryProperties.find? fun p => p.names.any (normalized · = name)).map fun p => .ofRanges p.ranges

/-- The set that a name alone stands for: a binary property, a general category or a script. -/
def named (name : String) : Except PropertyFault CharSet :=
  let name := normalized name
  let property := if ["cf", "sc", "lc"].contains name then none else binary? name
  match property <|> category? name <|> script? name with
  | some set => .ok set
  | none => .error .unknownProperty

/-- The set that a property and its value stand for. -/
def valued (name value : String) : Except PropertyFault CharSet :=
  let name := normalized name
  let value := normalized value
  let found :=
    if name = "gc" || name = "generalcategory" then some (category? value)
    else if name = "sc" || name = "script" || name = "scx" || name = "scriptextensions" then some (script? value)
    else if (binary? name).isSome then some none
    else none
  match found with
  | some (some set) => .ok set
  | some none => .error .unknownValue
  | none => .error .unknownProperty

/-! ### Sets with names of their own -/

/-- The set of a binary property, by the first of its names. -/
def binarySet (name : String) : CharSet := (binary? (normalized name)).getD .empty

/-- Alphabetic characters. -/
def alphabetic : CharSet := binarySet "Alphabetic"

/-- Decimal digits of any script. -/
def digit : CharSet := categorySet "Nd"

/-- White space. -/
def space : CharSet := binarySet "White_Space"

/-- The characters of words: letters, marks, decimal digits, connectors and joiners. -/
def word : CharSet :=
  .ofRanges (alphabetic.ranges.toList ++ (categorySet "M").ranges.toList ++ digit.ranges.toList
    ++ (categorySet "Pc").ranges.toList ++ (binarySet "Join_Control").ranges.toList)

/-- Alphabetic and numeric characters. -/
def alphanumeric : CharSet := alphabetic.union (categorySet "N")

/-- The digits of ASCII. -/
def asciiDigit : CharSet := .ofRanges [(0x30, 0x39)]

/-- The white space of ASCII. -/
def asciiSpace : CharSet := .ofRanges [(0x09, 0x0D), (0x20, 0x20)]

/-- The characters of words in ASCII. -/
def asciiWord : CharSet := .ofRanges [(0x30, 0x39), (0x41, 0x5A), (0x5F, 0x5F), (0x61, 0x7A)]

/-- The named classes of ASCII. -/
def asciiClass? (name : String) : Option CharSet :=
  [("alnum", [(0x30, 0x39), (0x41, 0x5A), (0x61, 0x7A)]), ("alpha", [(0x41, 0x5A), (0x61, 0x7A)]),
   ("ascii", [(0x00, 0x7F)]), ("blank", [(0x09, 0x09), (0x20, 0x20)]), ("cntrl", [(0x00, 0x1F), (0x7F, 0x7F)]),
   ("digit", [(0x30, 0x39)]), ("graph", [(0x21, 0x7E)]), ("lower", [(0x61, 0x7A)]), ("print", [(0x20, 0x7E)]),
   ("punct", [(0x21, 0x2F), (0x3A, 0x40), (0x5B, 0x60), (0x7B, 0x7E)]),
   ("space", [(0x09, 0x0D), (0x20, 0x20)]), ("upper", [(0x41, 0x5A)]),
   ("word", [(0x30, 0x39), (0x41, 0x5A), (0x5F, 0x5F), (0x61, 0x7A)]),
   ("xdigit", [(0x30, 0x39), (0x41, 0x46), (0x61, 0x66)])].lookup name |>.map CharSet.ofRanges

end Property
end SchemaSdl.Pattern
