import SchemaSdl.Command.Run
import SchemaSdl.Files.Glob
import SchemaSdl.Fixture.Case
import SchemaSdl.Pattern.Plain
import SchemaSdl.Text.Difference

/-! Checks of recorded cases. Each directory with a case is checked on its own, in the order of their paths. -/

namespace SchemaSdl.Fixture

/-- How a pass fails to be what its case expects. -/
inductive Mismatch where
  | anotherFailure (expected : String) (fault : Fault)
  | noFailure (expected : String)
  | anotherText (difference : Option Text.Difference)

/-- The wording of a mismatch. -/
def Mismatch.message : Mismatch → String
  | .anotherFailure expected fault =>
    "  expected error containing " ++ Text.backquoted expected ++ ", got " ++ Text.backquoted fault.message
  | .noFailure expected => "  expected error containing " ++ Text.backquoted expected ++ ", pass succeeded"
  | .anotherText difference => Text.differenceText difference

/-- What keeps a case from being checked. -/
inductive Obstacle where
  | file (fault : FileFault)
  | case (path : String) (fault : Json.Fault)
  | pass (fault : Fault)

/-- The wording of an obstacle. The path inside a case is left out when nothing of it is known. -/
def Obstacle.message : Obstacle → String
  | .file fault => fault.message
  | .case path fault =>
    let steps := if fault.path.all (· = .unknown) then "" else Json.Step.pathText fault.path ++ ": "
    "invalid " ++ path ++ ": " ++ steps ++ fault.message
  | .pass fault => fault.report

/-- What comes of a case. -/
inductive Verdict where
  | passed
  | failed (mismatch : Mismatch)
  | obstructed (obstacle : Obstacle)

/-- The text for a case of some name. -/
def Verdict.text (name : String) : Verdict → String
  | .passed => "✅ " ++ name ++ "\n"
  | .failed mismatch => "❌ " ++ name ++ "\n" ++ mismatch.message ++ "\n"
  | .obstructed obstacle => "❌ " ++ name ++ ": " ++ obstacle.message ++ "\n"

/-- Whether a case has passed. -/
def Verdict.isPassed : Verdict → Bool
  | .passed => true
  | _ => false

/-- Whether one text occurs in another. -/
def occursIn (part text : String) : Bool :=
  let part := part.toList
  (List.range (text.toList.length + 1)).any fun n => part.isPrefixOf (text.toList.drop n)

/-- Compares the failure of a pass with the one that is expected. -/
def verdictOnFailure (expected : String) : Except Fault String → Verdict
  | .error fault => if occursIn expected fault.message then .passed else .failed (.anotherFailure expected fault)
  | .ok _ => .failed (.noFailure expected)

/-- Compares the text of a pass with the one that is expected. -/
def verdictOnText (expected actual : String) : Verdict :=
  if actual = expected then .passed else .failed (.anotherText (Text.firstDifference expected actual))

variable {m : Type → Type} [Monad m] [FileAccess m]

/-- Reads a text, or is kept from it. -/
def readText (path : String) : ExceptT Obstacle m String := do
  match ← (FileAccess.readText path : m _) with
  | .ok text => return text
  | .error fault => throw (.file fault)

/-- Checks the case of a directory. -/
def check (directory path : String) : ExceptT Obstacle m Verdict := do
  let case ← match Case.load (← readText path) with
    | .ok case => pure case
    | .error fault => throw (.case path fault)
  let document ← match Document.load (← readText (Path.join directory case.schema)) with
    | .ok document => pure document
    | .error fault => throw (.pass (.unreadable fault))
  let template ← case.template.mapM fun file => readText (Path.join directory file)
  let pass ← match Pass.ofOptions (some document) (some case.rootInterface) template with
    | .ok pass => pure pass
    | .error fault => throw (.pass fault)
  let result := (Selection.mk case.filter case.exclude).selector >>= pass.render
  match case.expectError, result with
  | some expected, result => return verdictOnFailure expected result
  | none, .error fault => throw (.pass fault)
  | none, .ok actual => return verdictOnText (← readText (Path.join directory case.expected)) actual

/-- The verdict on the case of a directory. -/
def verdict (directory path : String) : m Verdict := do
  match ← (check directory path : m (Except Obstacle Verdict)) with
  | .ok verdict => return verdict
  | .error obstacle => return .obstructed obstacle

/-- The verdicts on the cases whose directories have names that pass a test, with these names. -/
def verdicts (test : String → Bool) (paths : List String) : m (List (String × Verdict)) :=
  paths.flatMapM fun path => do
    match Path.parent? path with
    | none => return []
    | some directory =>
      let name := (Path.lastName? directory).getD ""
      if test name then return [(name, ← verdict directory path)] else return []

/-- What verdicts come to. -/
def report (verdicts : List (String × Verdict)) : Report :=
  let passed := verdicts.countP fun (_, verdict) => verdict.isPassed
  { status := if passed = verdicts.length then 0 else 1,
    messages := String.join (verdicts.map fun (name, verdict) => verdict.text name)
      ++ toString passed ++ " of " ++ toString verdicts.length ++ " cases passed\n" }

/-- Checks the cases below a directory, which may be a path pattern, or those of them whose names a pattern occurs
in. -/
def program (arguments : List String) : m Report := do
  let directory := arguments.head?.getD "fixtures"
  let failed (message : String) : Report := { status := 1, messages := "Error: " ++ message ++ "\n" }
  match (arguments[1]?).mapM Pattern.Plain.compile with
  | .error refusal => return failed refusal.message
  | .ok pattern =>
    match Glob.ofText (Path.join (Path.join directory "*") "case.json") with
    | .error fault => return failed fault.message
    | .ok glob =>
      let paths ← glob.paths
      return report (← verdicts (fun name => pattern.all (·.occursIn name)) paths)

end SchemaSdl.Fixture
