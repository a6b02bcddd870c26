import SchemaSdl.Json.Typed

/-! Recorded cases in JSON text. -/

namespace SchemaSdl.Fixture
open Json (Reader)

/-- A recorded pass: the files that it reads, what it selects, and the text or the failure that it must come to. -/
structure Case where
  rootInterface : String := ""
  schema : String := "schema.json"
  template : Option String := none
  filter : Option String := none
  exclude : Option String := none
  expected : String := "expected.graphql"
  expectError : Option String := none
deriving DecidableEq

namespace Case

/-- The members of a case. -/
def slots : List (Reader.Slot Case) :=
  [{ name := "root_interface", needed := true,
     value := do let v ← .text; return fun c => { c with rootInterface := v } },
   { name := "schema", value := do let v ← .text; return fun c => { c with schema := v } },
   { name := "template", value := do let v ← .optional .text; return fun c => { c with template := v } },
   { name := "filter", value := do let v ← .optional .text; return fun c => { c with filter := v } },
   { name := "exclude", value := do let v ← .optional .text; return fun c => { c with exclude := v } },
   { name := "expected", value := do let v ← .text; return fun c => { c with expected := v } },
   { name := "expect_error", value := do let v ← .optional .text; return fun c => { c with expectError := v } }]

/-- Reads a case from the front of a text. -/
def load (text : String) : Except Json.Fault Case :=
  (Reader.record "struct Case" (some slots) {}).run text.toUTF8.toList

end Case
end SchemaSdl.Fixture
