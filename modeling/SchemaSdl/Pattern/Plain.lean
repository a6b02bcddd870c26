import SchemaSdl.Pattern.Automaton
import SchemaSdl.Pattern.Plain.Grammar
import SchemaSdl.Pattern.Plain.Meaning

/-! Plain patterns: regular expressions without look-around and back references. -/

namespace SchemaSdl.Pattern

/-- A pattern that can be searched for. -/
structure Plain where
  automaton : Automaton

namespace Plain

/-- Why a text is no pattern. -/
inductive Refusal where
  | faulty (pattern : String) (fault : Fault)
  | tooLarge

/-- The wording of a refusal. -/
def Refusal.message : Refusal → String
  | .faulty pattern fault => fault.report pattern
  | .tooLarge => "Compiled regex exceeds size limit of 10485760 bytes."

/-- Reads a pattern and prepares it for searching. -/
def compile (text : String) : Except Refusal Plain := do
  let tree ← (Tree.ofText text).mapError (.faulty text)
  let (regular, _) ← (tree.meaning {}).mapError (.faulty text)
  if Regular.weightLimit < regular.weight then throw .tooLarge
  return ⟨.ofRegular regular⟩

/-- Whether a pattern occurs in a text. -/
def occursIn (pattern : Plain) (text : String) : Bool := pattern.automaton.isMatch text.toList.toArray

end Plain
end SchemaSdl.Pattern
