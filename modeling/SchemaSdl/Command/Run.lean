import SchemaSdl.Command.Arguments
import SchemaSdl.Files.Access
import SchemaSdl.Files.Path
import SchemaSdl.Log.Filter
import SchemaSdl.Schema.Loading
import SchemaSdl.Selection

/-! Runs of the command: read a document and a template, convert, and write the outcome. Nothing is written before
everything else has succeeded. -/

namespace SchemaSdl

/-- What a program leaves behind: its exit status and what it has put on standard output and standard error. -/
structure Report where
  status : Nat := 0
  output : String := ""
  messages : String := ""
deriving DecidableEq

namespace Command

/-- Why a run fails, with the path that it concerns. -/
inductive Failure where
  | input (path : String) (fault : FileFault)
  | document (path : String) (fault : Fault)
  | template (path : String) (fault : FileFault)
  | options (fault : Fault)
  | conversion (path : String) (fault : Fault)
  | directory (path : String) (fault : FileFault)
  | output (path : String) (fault : FileFault)

/-- The wording of a failure. -/
def Failure.message : Failure → String
  | .input path fault => "failed to read source file " ++ path ++ ": " ++ fault.message
  | .document path fault => "failed to parse Swagger source file (" ++ path ++ "): " ++ fault.report
  | .template path fault => "failed to read template " ++ path ++ ": " ++ fault.message
  | .options fault => fault.report
  | .conversion path fault => "failed to convert " ++ path ++ ": " ++ fault.report
  | .directory path fault => "failed to create output directory " ++ path ++ ": " ++ fault.message
  | .output path fault => "failed to write " ++ path ++ ": " ++ fault.message

/-- The pass that a command asks for, given what its files hold. -/
def pass (command : Command) (input : Except FileFault (List UInt8)) (template : Except FileFault String) :
    Except Failure Pass := do
  let bytes ← input.mapError (.input command.input)
  let document ← (Document.loadBytes bytes).mapError fun fault => .document command.input (.unreadable fault)
  let template ← template.mapError (.template command.template)
  (Pass.ofOptions (some document) (some command.rootInterface) (some template)).mapError .options

/-- The selection that a command asks for. -/
def selection (command : Command) : Selection := ⟨command.filter, command.exclude⟩

/-- The text that a command is to write, given what its files hold, and the notices on the way. -/
def text (command : Command) (input : Except FileFault (List UInt8)) (template : Except FileFault String) :
    Except Failure String × Array Notice :=
  match command.pass input template with
  | .error failure => (.error failure, #[])
  | .ok pass =>
    match command.selection.selector with
    | .error fault => (.error (.conversion command.input fault), #[])
    | .ok selector =>
      let (registry, notices) := pass.run selector
      ((registry.map pass.text).mapError (.conversion command.input), notices)

variable {m : Type → Type} [Monad m] [FileAccess m]

/-- Makes the directory of a file, if its path names one. -/
def makeParent (path : String) : m (Except Failure Unit) := do
  match (Path.parent? path).filter (· ≠ "") with
  | some parent => return (← FileAccess.makeDirectories parent).mapError (.directory parent)
  | none => return .ok ()

/-- Writes a text to a file, making its directory first. -/
def store (path text : String) : m (Except Failure Unit) := do
  match ← makeParent path with
  | .error failure => return .error failure
  | .ok () => return (← FileAccess.write path text.toUTF8.toList).mapError (.output path)

/-- How a run ended and the events on the way. -/
structure Outcome where
  result : Except Failure Unit
  events : List Log.Event

/-- Runs a command. -/
def run (command : Command) : m Outcome := do
  let input ← FileAccess.read command.input
  let template ← FileAccess.readText command.template
  let (text, notices) := command.text input template
  let events := notices.toList.map Log.Event.ofNotice
  match text with
  | .error failure => return ⟨.error failure, events⟩
  | .ok text =>
    match ← store command.output text with
    | .error failure => return ⟨.error failure, events⟩
    | .ok () => return ⟨.ok (), events ++ [.written command.output text.utf8ByteSize]⟩

namespace Outcome

/-- What the outcome of a run shows of itself: the events that a filter lets through, and the failure. -/
def report (outcome : Outcome) (filter : Log.Filter) : Report :=
  let lines := (outcome.events.filter filter.shows).map fun event => event.line ++ "\n"
  match outcome.result with
  | .ok () => { messages := String.join lines }
  | .error failure => { status := 1, messages := String.join lines ++ "error: " ++ failure.message ++ "\n" }

end Outcome

/-- The text that explains the arguments. -/
def help : String :=
  let explained (setting : Setting) : String :=
    "      " ++ setting.text ++ (if setting.isNeeded then "" else " (optional)") ++ "\n"
  "Converts the definitions of a Swagger document into a GraphQL schema.\n\nOptions:\n"
    ++ String.join (Setting.all.map explained) ++ "  -v, --verbose...\n  -h, --help\n"

/-- Does what some arguments ask for. The wanted log filter gives way to one that the arguments imply when it is not
given or is not one. -/
def program (arguments : List String) (logFilter : Option String) : m Report := do
  match ofArguments arguments with
  | .error .help => return { output := help }
  | .error (.fault fault) => return { status := 2, messages := "error: " ++ fault.message ++ "\n" }
  | .ok command =>
    let filter := (logFilter.bind Log.Filter.ofText?).getD (.ofVerbosity command.verbosity)
    return (← command.run).report filter

end Command
end SchemaSdl
