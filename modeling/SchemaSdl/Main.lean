import SchemaSdl.Command.Run
import SchemaSdl.Fixture.Check

/-! The programs as they are run: files are those of the system, and a report goes to the standard streams. -/

namespace SchemaSdl

/-- The fault that the system reports. -/
def FileFault.ofSystem : IO.Error → FileFault
  | .noFileOrDirectory .. => .missing
  | .alreadyExists .. => .taken
  | .inappropriateType _ code _ => if code = 20 then .notDirectory else .isDirectory
  | error => .other (toString error)

/-- The outcome of an action that may fail. -/
def attempt (action : IO α) : IO (Except FileFault α) := do
  match ← action.toBaseIO with
  | .ok value => return .ok value
  | .error error => return .error (.ofSystem error)

instance : FileAccess IO where
  read path := attempt do return (← IO.FS.readBinFile path).toList
  write path content := attempt (IO.FS.writeBinFile path ⟨content.toArray⟩)
  makeDirectories path := attempt (IO.FS.createDirAll path)
  isPresent path := do ((← IO.currentDir) / path).pathExists
  isDirectory path := do ((← IO.currentDir) / path).isDir
  list path := do
    match ← ((← IO.currentDir) / path).readDir.toBaseIO with
    | .ok entries => return entries.toList.map (·.fileName)
    | .error _ => return []

/-- The name under which the check of recorded cases is called. -/
def checkName : String := "check-fixtures"

/-- The program that a name calls. -/
def programOf (name : Option String) (arguments : List String) : IO Report := do
  if name = some checkName then Fixture.program arguments
  else Command.program arguments (← IO.getEnv "RUST_LOG")

end SchemaSdl

/-- Runs the program that is called. -/
def main (arguments : List String) : IO UInt32 := do
  let report ← SchemaSdl.programOf (← IO.appPath).fileName arguments
  IO.print report.output
  IO.eprint report.messages
  return report.status.toUInt32
