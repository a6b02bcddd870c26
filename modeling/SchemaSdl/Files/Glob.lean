import SchemaSdl.Files.Access
import SchemaSdl.Files.Path

/-! Path patterns: names with wildcards, and runs of directories of any depth. -/

namespace SchemaSdl

/-- What is wrong with a path pattern, and at which character. -/
inductive Glob.Fault where
  | tooManyStars (position : Nat)
  | depthInName (position : Nat)
  | rangeBroken (position : Nat)

/-- The wording of a fault. -/
def Glob.Fault.message : Glob.Fault → String
  | .tooManyStars n => text n "wildcards are either regular `*` or recursive `**`"
  | .depthInName n => text n "recursive wildcards must form a single path component"
  | .rangeBroken n => text n "invalid range pattern"
where
  /-- What is wrong, behind its place. -/
  text (position : Nat) (reason : String) : String :=
    "Pattern syntax error near position " ++ toString position ++ ": " ++ reason

/-- A part of a name pattern. -/
inductive Glob.Token where
  | char (c : Char)
  | anyChar
  /-- A character in one of these ranges, or in none of them. -/
  | ranges (inside : Bool) (ranges : List (Char × Char))
  /-- Any number of characters. -/
  | anyText
  /-- Any number of directories. -/
  | anyDepth
deriving DecidableEq

/-- A pattern of paths, a name at a time. -/
structure Glob where
  absolute : Bool
  names : List (List Glob.Token)

namespace Glob

/-- The character that a part writes out. -/
def Token.char? : Token → Option Char
  | .char c => some c
  | _ => none

/-! ### Reading patterns -/

/-- The ranges that the inside of brackets writes. -/
def rangesOf : List Char → List (Char × Char)
  | first :: '-' :: last :: rest => (first, last) :: rangesOf rest
  | c :: rest => (c, c) :: rangesOf rest
  | [] => []

/-- What stands inside brackets and behind them. Inside stands at least one character, and a closing bracket that
comes first stands for itself. -/
def bracketed? (text : List Char) : Option (List Char × { rest : List Char // rest.length < text.length }) :=
  match text with
  | [] => none
  | first :: more =>
    match h : more.dropWhile (· ≠ ']') with
    | [] => none
    | bracket :: rest => some (first :: more.takeWhile (· ≠ ']'), ⟨rest, by
        have shorter := (List.dropWhile_suffix (· ≠ ']') (l := more)).length_le
        rw [h] at shorter
        simp only [List.length_cons] at shorter ⊢
        omega⟩)

/-- The parts of a pattern from one of its characters on, which may be the first after a slash. -/
def tokensFrom (position : Nat) (fresh : Bool) (text : List Char) : Except Fault (List Token) :=
  match text with
  | [] => .ok []
  | '?' :: rest => do return .anyChar :: (← tokensFrom (position + 1) false rest)
  | '*' :: '*' :: '*' :: _ => .error (.tooManyStars (position + 2))
  | '*' :: '*' :: rest =>
    if !fresh then .error (.depthInName (position - 1))
    else
      match rest with
      | [] => .ok [.anyDepth]
      | '/' :: rest => do return .anyDepth :: (← tokensFrom (position + 3) true rest)
      | _ => .error (.depthInName (position + 2))
  | '*' :: rest => do return .anyText :: (← tokensFrom (position + 1) false rest)
  | '[' :: '!' :: rest =>
    match bracketed? rest with
    | none => .error (.rangeBroken position)
    | some (inside, ⟨after, _⟩) => do
      return .ranges false (rangesOf inside) :: (← tokensFrom (position + 3 + inside.length) false after)
  | '[' :: rest =>
    match bracketed? rest with
    | none => .error (.rangeBroken position)
    | some (inside, ⟨after, _⟩) => do
      return .ranges true (rangesOf inside) :: (← tokensFrom (position + 2 + inside.length) false after)
  | c :: rest => do return .char c :: (← tokensFrom (position + 1) (c = '/') rest)
termination_by text.length

/-- The parts of a pattern. -/
def tokens (text : String) : Except Fault (List Token) := tokensFrom 0 true text.toList

/-- The text that a name pattern without wildcards stands for. -/
def plainText? (name : List Token) : Option String :=
  (name.mapM Token.char?).map String.ofList

/-! ### Names -/

/-- Whether a part that stands for one character takes this one. -/
def Token.takes : Token → Char → Bool
  | .char c, d => c = d
  | .anyChar, _ => true
  | .ranges inside limits, c => limits.any (fun (first, last) => first ≤ c && c ≤ last) == inside
  | .anyText, _ | .anyDepth, _ => false

/-- Whether a whole name has the form of a pattern. -/
def fits : List Token → List Char → Bool
  | [], name => name.isEmpty
  | .anyText :: rest, [] => fits rest []
  | .anyText :: rest, c :: name => fits rest (c :: name) || fits (.anyText :: rest) name
  | _ :: _, [] => false
  | token :: rest, c :: name => token.takes c && fits rest name
termination_by pattern name => pattern.length + name.length

/-! ### Patterns of paths -/

/-- Reads a pattern, first as a whole and then name by name. -/
def ofText (text : String) : Except Fault Glob := do
  let _ ← tokens text
  let absolute := Path.isAbsolute text
  let pieces := Text.pieces '/' text
  let pieces := if absolute then pieces.drop 1 else pieces
  let pieces := if pieces.getLast? = some "" then pieces.dropLast else pieces
  return ⟨absolute, ← pieces.mapM tokens⟩

variable {m : Type → Type} [Monad m] [FileAccess m]
open FileAccess (isPresent isDirectory list)

/-- The path of a name in a directory. The directory in which one stands is not written. -/
def within (directory name : String) : String := if Path.isHere directory then name else Path.join directory name

/-- The paths of what stands in a directory, in ascending order of the names for which a test holds. -/
def children (test : String → Bool) (directory : String) : m (List String) := do
  let names ← list directory
  return ((names.filter test).mergeSort fun a b => decide (a ≤ b)).map (within directory)

/-- Everything below a directory down to some depth, each directory right before what is in it. -/
def below : (depth : Nat) → (directory : String) → m (List String)
  | 0, _ => return []
  | depth + 1, directory => do
    let paths ← children (fun _ => true) directory
    paths.flatMapM fun path => do return path :: (← below depth path)

/-- No path leads down further than this, as no path is longer than 4096 bytes. -/
def depthLimit : Nat := 2048

/-- The points that stand for a directory and the one above it, which only a pattern that starts with a point finds. -/
def points (name : List Token) : List String :=
  if name.head? = some (.char '.') then ["..", "."].filter fun point => fits name point.toList else []

/-- The paths behind another one that have the form of a pattern, in order. -/
def find (path : String) : List (List Token) → m (List String)
  | [] => return [path]
  | [.anyDepth] :: [] => do (← below depthLimit path).filterM fun inner => isDirectory inner
  | [.anyDepth] :: [.anyDepth] :: rest => find path ([.anyDepth] :: rest)
  | [.anyDepth] :: name :: rest => do
    let inner ← below depthLimit path
    let named := inner.filter fun inner => (Path.lastName? inner).any fun last => fits name last.toList
    named.flatMapM fun inner => find inner rest
  | name :: rest => do
    match plainText? name with
    | some plain =>
      let next := within path plain
      let found ← if plain = "." || plain = ".." then isDirectory path else isPresent next
      if found then find next rest else return []
    | none =>
      if ← isDirectory path then
        let named ← children (fun last => fits name last.toList) path
        ((points name).map (Path.join path) ++ named).flatMapM fun inner => find inner rest
      else return []
termination_by names => names.length

/-- The paths that have the form of a pattern, in order. -/
def paths (glob : Glob) : m (List String) := find (if glob.absolute then "/" else ".") glob.names

end Glob
end SchemaSdl
