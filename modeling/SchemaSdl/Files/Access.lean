/-! Access to files: what can be asked of them and how it fails. -/

namespace SchemaSdl

/-- Why a file cannot be used. -/
inductive FileFault where
  | missing
  | notDirectory
  | isDirectory
  /-- Something else has the name. -/
  | taken
  | nameTooLong
  | nameBroken
  | notText
  /-- Any other reason, with its wording. -/
  | other (reason : String)
deriving DecidableEq

/-- The wording of a fault. -/
def FileFault.message : FileFault → String
  | .missing => "No such file or directory (os error 2)"
  | .taken => "File exists (os error 17)"
  | .notDirectory => "Not a directory (os error 20)"
  | .isDirectory => "Is a directory (os error 21)"
  | .nameTooLong => "File name too long (os error 36)"
  | .nameBroken => "file name contained an unexpected NUL byte"
  | .notText => "stream did not contain valid UTF-8"
  | .other reason => reason

/-- What a program can ask of files, which it knows by the texts of their paths. -/
class FileAccess (m : Type → Type) where
  /-- The bytes of a file. -/
  read : String → m (Except FileFault (List UInt8))
  /-- Makes these bytes the content of a file, which need not exist. -/
  write : String → List UInt8 → m (Except FileFault Unit)
  /-- Makes a directory and those above it, as far as they do not exist. -/
  makeDirectories : String → m (Except FileFault Unit)
  /-- Whether there is a file or a directory. -/
  isPresent : String → m Bool
  /-- Whether there is a directory. -/
  isDirectory : String → m Bool
  /-- The names of what stands in a directory, in any order. -/
  list : String → m (List String)

namespace FileAccess

/-- The text that some bytes encode. -/
def text (bytes : List UInt8) : Except FileFault String :=
  match String.fromUTF8? ⟨bytes.toArray⟩ with
  | some text => .ok text
  | none => .error .notText

/-- The text of a file. -/
def readText {m : Type → Type} [Monad m] [FileAccess m] (path : String) : m (Except FileFault String) := do
  return (← read path) >>= text

end FileAccess
end SchemaSdl
