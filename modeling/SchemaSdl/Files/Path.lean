import SchemaSdl.Text.Pieces

/-! The texts of paths. Names are divided by slashes, and a path that begins with a slash leads down from the root.
A blank name or a single point in the middle or at the end of a path means nothing. -/

namespace SchemaSdl.Path

/-- A path that leads down from the root, wherever one stands. -/
def isAbsolute (path : String) : Bool := path.toList.head? = some '/'

/-- A name that leads nowhere else. -/
def isIdle (name : String) : Bool := name = "" || name = "."

/-- What a path begins with before its first name: the root, the point for the place where one stands, or nothing. -/
def start (path : String) : String :=
  if isAbsolute path then "/" else if (Text.pieces '/' path).head? = some "." then "." else ""

/-- The names of a path behind its start, without the idle ones at the end. -/
def names (path : String) : List String :=
  let all := Text.pieces '/' path
  let body := if start path = "" then all else all.drop 1
  (body.reverse.dropWhile isIdle).reverse

/-- The text of a start and the names behind it. -/
def ofNames (start : String) (names : List String) : String :=
  let body := "/".intercalate (names.reverse.dropWhile isIdle).reverse
  if start = "." && body ≠ "" then "./" ++ body else start ++ body

/-- The path without its last name. The root and the empty path have none. -/
def parent? (path : String) : Option String :=
  match (names path).reverse with
  | _ :: above => some (ofNames (start path) above.reverse)
  | [] => if start path = "." then some "" else none

/-- The last name of a path, unless it leads up. -/
def lastName? (path : String) : Option String :=
  match (names path).getLast? with
  | some name => if name = ".." then none else some name
  | none => none

/-- A path seen from a directory. -/
def join (directory path : String) : String :=
  if isAbsolute path || directory = "" then path
  else if directory.toList.getLast? = some '/' then directory ++ path
  else directory ++ "/" ++ path

/-- The path of the place where one stands. -/
def isHere (path : String) : Bool := start path = "." && names path = []

end SchemaSdl.Path
