/-! Texts cut into pieces and lines. -/

namespace SchemaSdl.Text

/-- The pieces between separators, of which there is always at least one. -/
def cut (separator : Char) : List Char → List (List Char)
  | [] => [[]]
  | c :: rest =>
    if c = separator then [] :: cut separator rest
    else
      match cut separator rest with
      | [] => [[c]]
      | piece :: more => (c :: piece) :: more

/-- Cutting leaves at least one piece. -/
theorem cut_ne_nil (separator : Char) (text : List Char) : cut separator text ≠ [] := by
  cases text with
  | nil => simp [cut]
  | cons c rest =>
    simp only [cut]
    split
    · simp
    · split <;> simp

/-- The pieces of a text between separators. -/
def pieces (separator : Char) (text : String) : List String := (cut separator text.toList).map String.ofList

/-- A line without the carriage return at its end. -/
def withoutReturn (line : List Char) : List Char := if line.getLast? = some '\r' then line.dropLast else line

/-- The lines among the pieces between line feeds. A carriage return right before a line feed belongs to the end of
its line, and behind the last line feed there is a line only if there is text. -/
def linesOf : List (List Char) → List (List Char)
  | [] => []
  | [last] => if last = [] then [] else [last]
  | line :: rest => withoutReturn line :: linesOf rest

/-- The lines of a text. -/
def lines (text : String) : List String := (linesOf (cut '\n' text.toList)).map String.ofList

end SchemaSdl.Text
