import SchemaSdl.Conversion

/-! What a run reports about itself while it works. -/

namespace SchemaSdl.Log

/-- How much an event matters, from the gravest kind down. -/
inductive Level where
  | error
  | warn
  | info
  | debug
  | trace
deriving DecidableEq

namespace Level

/-- The rank of a level, which grows as events matter less. -/
def rank : Level → Nat
  | .error => 1
  | .warn => 2
  | .info => 3
  | .debug => 4
  | .trace => 5

/-- The name of a level in capital letters. -/
def label : Level → String
  | .error => "ERROR"
  | .warn => "WARN"
  | .info => "INFO"
  | .debug => "DEBUG"
  | .trace => "TRACE"

end Level

/-- One event: which part of the program it concerns, what happened, and the values to it as they are written. -/
structure Event where
  level : Level
  area : String
  message : String
  values : List (String × String)
deriving DecidableEq

namespace Event

/-- The line of an event. -/
def line (event : Event) : String :=
  event.level.label ++ " " ++ event.area ++ ": " ++ event.message
    ++ String.join (event.values.map fun (name, value) => " " ++ name ++ "=" ++ value)

/-- The event of a notice that a conversion gives. -/
def ofNotice : Notice → Event
  | .classifying field path =>
    ⟨.trace, "swagger_gql::convert", "classifying node", [("field", Text.quoted field), ("qualified", path.joined)]⟩
  | .registering path kind =>
    ⟨.debug, "swagger_gql::convert", "registering type",
      [("name", path.joined), ("kind", Text.quoted kind.keyword)]⟩
  | .converted selected registered =>
    ⟨.info, "swagger_gql::engine", "converted definitions",
      [("selected", toString selected), ("registered", toString registered)]⟩

/-- The event of a schema written to a file. -/
def written (path : String) (bytes : Nat) : Event :=
  ⟨.info, "swagger_gql::cli", "wrote schema", [("output", path), ("bytes", toString bytes)]⟩

end Event
end SchemaSdl.Log
