import SchemaSdl.Text.Unicode.Category
import SchemaSdl.Text.Unicode.GraphemeExtend

/-! Text in quotation marks, with everything that would not show escaped. -/

namespace SchemaSdl.Text

/-- Between backquotes, as error messages show names. -/
def backquoted (text : String) : String := "`" ++ text ++ "`"

/-- A character that shows when printed: no control, format, unassigned or private character and no separator
other than the space. -/
def isPrintable (c : Char) : Bool :=
  if c.toNat < 0x7F then 0x20 ≤ c.toNat
  else !(["Cc", "Cf", "Cs", "Co", "Cn", "Zl", "Zp", "Zs"].contains (category c))

/-- An escape by code point, in hexadecimal without leading zeros. -/
def codePointEscape (c : Char) : String :=
  "\\u" ++ "\x7b" ++ String.ofList (Nat.toDigits 16 c.toNat) ++ "\x7d"

/-- A character inside quotation marks. -/
def escaped (c : Char) : String :=
  if c = '\x00' then "\\0"
  else if c = '\t' then "\\t"
  else if c = '\r' then "\\r"
  else if c = '\n' then "\\n"
  else if c = '\\' then "\\\\"
  else if c = '"' then "\\\""
  else if c.toNat > 0x2FF && extendsGrapheme c then codePointEscape c
  else if isPrintable c then c.toString
  else codePointEscape c

/-- A text in quotation marks. -/
def quoted (text : String) : String := "\"" ++ String.join (text.toList.map escaped) ++ "\""

end SchemaSdl.Text
