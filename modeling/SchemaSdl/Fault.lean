import SchemaSdl.Json.Fault
import SchemaSdl.Pattern.Extended.Fault
import SchemaSdl.Sdl.Entry

/-! What can go wrong between a schema document and its types. -/

namespace SchemaSdl

/-- The cause of a failure. Each is fatal to the pass in which it arises. -/
inductive Fault where
  /-- A pass needs a document and the name of a root interface. -/
  | missingOptions
  /-- A place for a schema that holds none, inside the type at a path if any. -/
  | malformedNode (field : String) (within : Option TypePath)
  /-- A schema without a shape, inside the type at a path if any. -/
  | unmappable (field : String) (within : Option TypePath)
  /-- A reference to what is not a definition. -/
  | unresolvedReference (field target : String)
  /-- Aliases that lead back to one of themselves, from the first one on. -/
  | cyclicReference (chain : List String)
  /-- Two paths that flatten to one name. -/
  | duplicateType (held refused : TypePath)
  /-- A selection pattern that is not one, or that cannot be decided. -/
  | invalidFilter (fault : Pattern.Extended.Fault)
  /-- A document that cannot be read. -/
  | unreadable (fault : Json.Fault)

namespace Fault
open Text (backquoted)

/-- The end of a message that names the enclosing type. -/
def withinText : Option TypePath → String
  | some path => " (in " ++ path.joined ++ ")"
  | none => ""

/-- The wording of a failure. -/
def message : Fault → String
  | .missingOptions => "Missing required properties from options: \x7b swagger, rootInterface \x7d"
  | .malformedNode field within => "malformed schema node for field " ++ backquoted field ++ withinText within
  | .unmappable field within => "Could not map Swagger definition to GraphQL type: " ++ field ++ withinText within
  | .unresolvedReference field target =>
    "field " ++ backquoted field ++ " references " ++ backquoted target ++ ", which is not a top-level definition"
  | .cyclicReference chain => "cyclic reference: " ++ " -> ".intercalate chain
  | .duplicateType held refused =>
    "type name " ++ backquoted refused.joined ++ " produced by both " ++ backquoted held.trail ++ " and "
      ++ backquoted refused.trail
  | .invalidFilter fault => "invalid definition filter: " ++ fault.message
  | .unreadable fault =>
    "failed to parse schema document at " ++ Json.Step.pathText fault.path ++ ": " ++ fault.message

/-- The wording of a failure and of the one behind it, if there is one. -/
def report : Fault → String
  | .invalidFilter fault => message (.invalidFilter fault) ++ ": " ++ fault.message
  | fault => fault.message

end Fault
end SchemaSdl
