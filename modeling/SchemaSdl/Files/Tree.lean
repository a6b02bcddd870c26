import SchemaSdl.Files.Access
import SchemaSdl.Files.Path

/-! Files as a table of places and what stands there. -/

namespace SchemaSdl

/-- A place among files: the names that lead to it down from the root. -/
abbrev Location := List String

/-- What stands at a place. -/
inductive Item where
  | file (content : List UInt8)
  | directory
deriving DecidableEq

/-- What stands where, and the place from which relative paths lead. The root is always a directory. -/
structure FileTree where
  items : List (Location × Item) := []
  here : Location := []

namespace FileTree

/-- What stands at a place. -/
def item? (tree : FileTree) (location : Location) : Option Item :=
  if location = [] then some .directory else tree.items.lookup location

/-- Puts something at a place. -/
def put (tree : FileTree) (location : Location) (item : Item) : FileTree :=
  { tree with items := (location, item) :: tree.items.filter (·.1 ≠ location) }

theorem item?_put_self {tree : FileTree} {location : Location} {item : Item} (h : location ≠ []) :
    (tree.put location item).item? location = some item := by
  simp [item?, put, h]

theorem lookup_filter_ne {items : List (Location × Item)} {location other : Location} (h : other ≠ location) :
    (items.filter (·.1 ≠ location)).lookup other = items.lookup other := by
  induction items with
  | nil => rfl
  | cons pair rest ih =>
    obtain ⟨at', item⟩ := pair
    by_cases hat : at' = location
    · subst hat
      rw [List.filter_cons_of_neg (by simp), ih, List.lookup_cons, beq_eq_false_iff_ne.2 h]
    · rw [List.filter_cons_of_pos (by simpa using hat), List.lookup_cons, List.lookup_cons, ih]

/-- Nothing changes elsewhere. -/
theorem item?_put_of_ne {tree : FileTree} {location other : Location} {item : Item} (h : other ≠ location) :
    (tree.put location item).item? other = tree.item? other := by
  unfold item?
  split
  · rfl
  · rw [put, List.lookup_cons, beq_eq_false_iff_ne.2 h]
    exact lookup_filter_ne h

/-! ### Where paths lead -/

/-- The length of the longest name, in bytes. -/
def nameLimit : Nat := 255

/-- The length that a path must not reach, in bytes. -/
def pathLimit : Nat := 4096

/-- Fails unless a directory stands at a place. -/
def requireDirectory (tree : FileTree) (location : Location) : Except FileFault Unit :=
  match tree.item? location with
  | none => .error .missing
  | some (.file _) => .error .notDirectory
  | some .directory => .ok ()

/-- The place to which names lead from another. Every name needs a directory to start from, and two points lead up
from it. -/
def follow (tree : FileTree) (location : Location) : List String → Except FileFault Location
  | [] => .ok location
  | name :: rest => do
    tree.requireDirectory location
    if Path.isIdle name then tree.follow location rest
    else if name = ".." then tree.follow location.dropLast rest
    else if nameLimit < name.utf8ByteSize then throw .nameTooLong
    else tree.follow (location ++ [name]) rest

/-- Fails for what is no path at all. -/
def requirePath (path : String) : Except FileFault Unit :=
  if '\x00' ∈ path.toList then .error .nameBroken
  else if path = "" then .error .missing
  else if pathLimit ≤ path.utf8ByteSize then .error .nameTooLong
  else .ok ()

/-- The place from which a path leads. -/
def startOf (tree : FileTree) (path : String) : Location := if Path.isAbsolute path then [] else tree.here

/-- The place to which a path leads. -/
def locate (tree : FileTree) (path : String) : Except FileFault Location := do
  requirePath path
  tree.follow (tree.startOf path) (Text.pieces '/' path)

/-! ### Reading -/

/-- What stands where a path leads. -/
def look (tree : FileTree) (path : String) : Except FileFault Item := do
  match tree.item? (← tree.locate path) with
  | some item => return item
  | none => throw .missing

/-- The bytes of a file. -/
def read (tree : FileTree) (path : String) : Except FileFault (List UInt8) := do
  match ← tree.look path with
  | .file content => return content
  | .directory => throw .isDirectory

/-- Whether there is a file or a directory. -/
def isPresent (tree : FileTree) (path : String) : Bool := (tree.look path).isOk

/-- Whether there is a directory. -/
def isDirectory (tree : FileTree) (path : String) : Bool :=
  match tree.look path with
  | .ok .directory => true
  | _ => false

/-- The names of what stands in a directory. -/
def list (tree : FileTree) (path : String) : List String :=
  match tree.locate path with
  | .error _ => []
  | .ok location => tree.items.filterMap fun (below, _) => if below.dropLast = location then below.getLast? else none

/-! ### Writing -/

/-- The place of a file that is to be written. Its directory must exist, and it must not be a directory itself. -/
def target (tree : FileTree) (path : String) : Except FileFault Location := do
  requirePath path
  let names := Text.pieces '/' path
  match names.reverse.dropWhile (· = "") with
  | [] => throw .isDirectory
  | name :: above =>
    let directory ← tree.follow (tree.startOf path) above.reverse
    tree.requireDirectory directory
    if names.getLast? = some "" || name = "." || name = ".." then throw .isDirectory
    else if nameLimit < name.utf8ByteSize then throw .nameTooLong
    else
      match tree.item? (directory ++ [name]) with
      | some .directory => throw .isDirectory
      | _ => return directory ++ [name]

/-- Makes these bytes the content of a file. -/
def write (tree : FileTree) (path : String) (content : List UInt8) : Except FileFault FileTree := do
  return tree.put (← tree.target path) (.file content)

/-- Makes the directory of a name inside another one. -/
def makeDirectory (tree : FileTree) (start : Location) (above : List String) (name : String) :
    Except FileFault FileTree := do
  let directory ← tree.follow start above
  tree.requireDirectory directory
  if name = ".." then throw .taken
  else if nameLimit < name.utf8ByteSize then throw .nameTooLong
  else
    match tree.item? (directory ++ [name]) with
    | some _ => throw .taken
    | none => return tree.put (directory ++ [name]) .directory

/-- A directory that could not be made will do if there is one. -/
def orPresent (tree : FileTree) (start : Location) (names : List String) :
    Except FileFault FileTree → Except FileFault FileTree
  | .ok made => .ok made
  | .error fault =>
    match tree.follow start names with
    | .ok location => if tree.item? location = some .directory then .ok tree else .error fault
    | .error _ => .error fault

/-- Makes a directory, and those above it when they are missing. The names come innermost first. -/
def makeAll (tree : FileTree) (start : Location) : List String → Except FileFault FileTree
  | [] => .ok tree
  | name :: above =>
    match tree.makeDirectory start above.reverse name with
    | .error .missing => do
      let tree ← tree.makeAll start above
      tree.orPresent start (name :: above).reverse (tree.makeDirectory start above.reverse name)
    | outcome => tree.orPresent start (name :: above).reverse outcome

/-- Makes a directory and those above it. -/
def makeDirectories (tree : FileTree) (path : String) : Except FileFault FileTree := do
  if path = "" then return tree
  requirePath path
  tree.makeAll (tree.startOf path) ((Path.names path).filter (!Path.isIdle ·)).reverse

/-! ### Trees as the files of a program -/

/-- Takes up a changed tree, if there is one. -/
def change (step : FileTree → Except FileFault FileTree) : StateM FileTree (Except FileFault Unit) := fun tree =>
  match step tree with
  | .ok changed => (.ok (), changed)
  | .error fault => (.error fault, tree)

instance : FileAccess (StateM FileTree) where
  read path := fun tree => (tree.read path, tree)
  write path content := change (·.write path content)
  makeDirectories path := change (·.makeDirectories path)
  isPresent path := fun tree => (tree.isPresent path, tree)
  isDirectory path := fun tree => (tree.isDirectory path, tree)
  list path := fun tree => (tree.list path, tree)

/-- Puts a directory at a place and at all places above it. -/
def putDirectories (tree : FileTree) (location : Location) : FileTree :=
  (List.range location.length).foldl (fun tree n => tree.put (location.take (n + 1)) .directory) tree

/-- The tree of some files below the place where one stands. -/
def ofFiles (here : Location) (files : List (String × List UInt8)) : FileTree :=
  files.foldl
    (fun tree (path, content) =>
      let location := here ++ (Text.pieces '/' path).filter (!Path.isIdle ·)
      (tree.putDirectories location.dropLast).put location (.file content))
    (putDirectories { here } here)

end FileTree
end SchemaSdl
