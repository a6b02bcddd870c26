import SchemaSdl.Pattern.Extended.Fault
import SchemaSdl.Pattern.Regular

/-! The syntax trees of extended patterns, and what can be told from them before they are searched for. -/

namespace SchemaSdl.Pattern.Extended

/-- A condition on what lies before or behind a place. -/
structure LookAround where
  behind : Bool
  negated : Bool
deriving DecidableEq

/-- An extended pattern. -/
inductive Expr where
  | empty
  | any (lineFeed : Bool)
  | look (look : Look)
  | literal (char : Char) (ignoreCase : Bool)
  /-- One character of a class that is written as a plain pattern. -/
  | oneOf (text : String) (ignoreCase : Bool)
  | concat (parts : List Expr)
  | alternation (choices : List Expr)
  | group (number : Nat) (inner : Expr)
  | around (kind : LookAround) (inner : Expr)
  | repeated (least : Nat) (most : Option Nat) (greedy : Bool) (inner : Expr)
  | backReference (number : Nat)
  /-- Once matched, no other way to match is tried. -/
  | atomic (inner : Expr)
  /-- The match is taken to begin here. -/
  | keepOut
  /-- The place where the search began. -/
  | searchStart
  /-- Whether a group has matched. -/
  | groupMatched (number : Nat)
  | conditional (condition yes no : Expr)

namespace Expr

/-- Whether a pattern is empty. -/
def isEmpty : Expr → Bool
  | .empty => true
  | _ => false

mutual

/-- The fewest characters of a match. -/
def leastSize : Expr → Nat
  | .any _ | .literal _ _ | .oneOf _ _ => 1
  | .concat parts => leastSizes parts
  | .alternation choices => leastOf choices
  | .group _ inner | .atomic inner => inner.leastSize
  | .repeated least _ _ inner => inner.leastSize * least
  | .conditional condition yes no => condition.leastSize + min yes.leastSize no.leastSize
  | _ => 0

/-- The fewest characters of a match of all in a row. -/
def leastSizes : List Expr → Nat
  | [] => 0
  | part :: rest => part.leastSize + leastSizes rest

/-- The fewest characters of a match of one of several. -/
def leastOf : List Expr → Nat
  | [] => 0
  | [choice] => choice.leastSize
  | choice :: rest => min choice.leastSize (leastOf rest)

end

mutual

/-- Whether all matches are known to have the same number of characters. -/
def isFixedSize : Expr → Bool
  | .backReference _ => false
  | .concat parts => areFixedSize parts
  | .alternation choices =>
    areFixedSize choices && areOfSize (leastOf choices) choices
  | .group _ inner | .atomic inner => inner.isFixedSize
  | .repeated least most _ inner => inner.isFixedSize && most = some least
  | .conditional condition yes no =>
    condition.isFixedSize && yes.isFixedSize && no.isFixedSize
      && condition.leastSize + yes.leastSize = no.leastSize
  | _ => true

/-- Whether each of several patterns has a fixed size. -/
def areFixedSize : List Expr → Bool
  | [] => true
  | part :: rest => part.isFixedSize && areFixedSize rest

/-- Whether each of several patterns has a given least size. -/
def areOfSize (size : Nat) : List Expr → Bool
  | [] => true
  | choice :: rest => choice.leastSize = size && areOfSize size rest

end

mutual

/-- Whether a pattern needs a search that can go back. Groups that are referred to need one. -/
def isHard (referenced : List Nat) : Expr → Bool
  | .look condition =>
    match condition with
    | .wordBoundary _ | .notWordBoundary _ | .wordStart _ | .wordStop _ => true
    | _ => false
  | .concat parts | .alternation parts => anyHard referenced parts
  | .group number inner => inner.isHard referenced || referenced.contains number
  | .repeated _ _ _ inner => inner.isHard referenced
  | .around .. | .backReference _ | .atomic _ | .keepOut | .searchStart | .groupMatched _ | .conditional .. => true
  | _ => false

/-- Whether one of several patterns needs a search that can go back. -/
def anyHard (referenced : List Nat) : List Expr → Bool
  | [] => false
  | part :: rest => part.isHard referenced || anyHard referenced rest

end

mutual

/-- Checks that groups are referred to only once they have been opened, and counts the groups opened. -/
def checkReferences (opened : Nat) : Expr → Except Fault Nat
  | .backReference number | .groupMatched number => if opened ≤ number then .error .noSuchGroup else .ok opened
  | .concat parts | .alternation parts => checkAllReferences opened parts
  | .group _ inner => inner.checkReferences (opened + 1)
  | .around _ inner | .repeated _ _ _ inner | .atomic inner => inner.checkReferences opened
  | .conditional condition yes no => do
    no.checkReferences (← yes.checkReferences (← condition.checkReferences opened))
  | _ => .ok opened

/-- Checks the references in several patterns, from the first to the last. -/
def checkAllReferences (opened : Nat) : List Expr → Except Fault Nat
  | [] => .ok opened
  | part :: rest => do checkAllReferences (← part.checkReferences opened) rest

end

mutual

/-- The characters of a pattern that is nothing but characters. -/
def literal? : Expr → Option (List Char)
  | .literal c false => some [c]
  | .concat parts => literals? parts
  | _ => none

/-- The characters of patterns in a row that are nothing but characters. -/
def literals? : List Expr → Option (List Char)
  | [] => some []
  | part :: rest => do return (← part.literal?) ++ (← literals? rest)

end

end Expr
end SchemaSdl.Pattern.Extended
