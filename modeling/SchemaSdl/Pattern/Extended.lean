import SchemaSdl.Pattern.Extended.Grammar
import SchemaSdl.Pattern.Extended.Machine

/-! Extended patterns: regular expressions with look-around, back references, atomic groups and conditions. -/

namespace SchemaSdl.Pattern

/-- A pattern that can be searched for: an automaton if it needs no going back. -/
inductive Extended where
  | plain (automaton : Automaton)
  | program (program : Extended.Program)

namespace Extended

/-- Reads a pattern and prepares it for searching. -/
def compile (text : String) : Except Fault Extended := do
  let reading ← Reading.ofText text
  let groups ← (Expr.group 0 reading.expr).checkReferences 0
  if reading.referenced.contains 0 then throw .noSuchGroup
  else if reading.expr.isHard reading.referenced then
    return .program (← Program.ofExpr reading.referenced groups reading.expr)
  else return .plain (.ofRegular (← regularOf (← reading.expr.plain 0)))

/-- Whether a pattern occurs in a text. -/
def occursIn (pattern : Extended) (text : String) : Except Fault Bool :=
  match pattern with
  | .plain automaton => .ok (automaton.isMatch text.toList.toArray)
  | .program p => p.isMatch text.toList.toArray

end Extended
end SchemaSdl.Pattern
