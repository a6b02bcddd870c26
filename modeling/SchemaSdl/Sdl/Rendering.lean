import SchemaSdl.Sdl.Entry

/-! The text of a type in the schema definition language. -/

namespace SchemaSdl

namespace Field

/-- A field's description may not hold a quote. -/
def unquoted (description : String) : String := String.ofList (description.toList.filter (· ≠ '"'))

/-- Every line after the first is indented by two blanks. -/
def indented (text : String) : String :=
  String.ofList (text.toList.flatMap fun c => if c = '\n' then ['\n', ' ', ' '] else [c])

/-- A description of one line is a quoted string, one of several lines a block. -/
def descriptionText (description : Option String) : String :=
  match written? description with
  | none => ""
  | some written =>
    let plain := unquoted written
    if '\n' ∈ plain.toList then "  \"\"\"\n  " ++ indented plain ++ "\n  \"\"\"\n"
    else "  \"" ++ plain ++ "\"\n"

/-- The lines of a field inside its type. -/
def text (name : String) (field : Field) : String :=
  descriptionText field.description ++ "  " ++ name ++ ": " ++ field.label.text
    ++ (if field.required then "!" else "")

end Field

namespace Body

/-- Fields stand in their own order, values in ascending order. -/
def lines : Body → List String
  | .composite _ fields => fields.map fun (name, field) => field.text name
  | .enum values => (values.mergeSort (fun a b => decide (a ≤ b))).map ("  " ++ ·)

end Body

namespace Entry

/-- The description of a type is always a block. -/
def descriptionText (description : Option String) : String :=
  match written? description with
  | none => ""
  | some written => "\"\"\"\n" ++ written ++ "\n\"\"\"\n"

/-- The declaration of a type under a name, without a line feed at its end. -/
def text (name : String) (entry : Entry) : String :=
  descriptionText entry.description ++ entry.kind.keyword ++ " " ++ name ++ " \x7b\n"
    ++ "\n".intercalate entry.body.lines ++ "\n\x7d"

end Entry

/-- The text of several declarations. -/
def joinBlocks (blocks : List String) : String := "\n".intercalate blocks

end SchemaSdl
