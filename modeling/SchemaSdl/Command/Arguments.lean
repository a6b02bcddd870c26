/-! The arguments of the command line. Options are given in any order as `--name value` or `--name=value`, flags of
one letter are given behind one hyphen together, and nothing else is. -/

namespace SchemaSdl

/-- What one run is asked to do: which files to read and to write, what becomes the root interface, which definitions
to select, and how much to report. -/
structure Command where
  input : String
  template : String
  rootInterface : String
  output : String
  filter : Option String := none
  exclude : Option String := none
  verbosity : Nat := 0
deriving DecidableEq

namespace Command

/-- The options that take a value. -/
inductive Setting where
  | input
  | template
  | rootInterface
  | filter
  | exclude
  | output
deriving DecidableEq

namespace Setting

/-- All options that take a value. -/
def all : List Setting := [.input, .template, .rootInterface, .filter, .exclude, .output]

/-- The name of an option. -/
def name : Setting → String
  | .input => "input"
  | .template => "template"
  | .rootInterface => "root-interface"
  | .filter => "filter"
  | .exclude => "exclude"
  | .output => "output"

/-- The name that stands for the value of an option. -/
def valueName : Setting → String
  | .input => "INPUT"
  | .template => "TEMPLATE"
  | .rootInterface => "ROOT_INTERFACE"
  | .filter => "FILTER"
  | .exclude => "EXCLUDE"
  | .output => "OUTPUT"

/-- An option as messages show it. -/
def text (setting : Setting) : String := "--" ++ setting.name ++ " <" ++ setting.valueName ++ ">"

/-- Paths may not be empty; other values may. -/
def needsText : Setting → Bool
  | .input | .template | .output => true
  | _ => false

/-- The options without which there is no run. -/
def isNeeded : Setting → Bool
  | .filter | .exclude => false
  | _ => true

/-- The option of a name. -/
def ofName? (name : String) : Option Setting := all.find? (·.name = name)

/-- The option of a letter. -/
def ofLetter? (letter : Char) : Option Setting := if letter = 'o' then some .output else none

end Setting

/-- The options that take no value. -/
inductive Flag where
  | verbose
  | help
deriving DecidableEq

namespace Flag

/-- A flag as messages show it. Flags that may be repeated end in points. -/
def text : Flag → String
  | .verbose => "--verbose..."
  | .help => "--help"

/-- The flag of a name. -/
def ofName? (name : String) : Option Flag :=
  if name = "verbose" then some .verbose else if name = "help" then some .help else none

/-- The flag of a letter. -/
def ofLetter? (letter : Char) : Option Flag :=
  if letter = 'v' then some .verbose else if letter = 'h' then some .help else none

end Flag

/-- What is wrong with the arguments. -/
inductive UsageFault where
  | unexpected (argument : String)
  | unexpectedValue (value : String) (flag : Flag)
  | valueMissing (setting : Setting)
  | repeated (setting : Setting)
  | notProvided (settings : List Setting)
deriving DecidableEq

/-- The wording of a fault. Options that were not provided follow on lines of their own. -/
def UsageFault.message : UsageFault → String
  | .unexpected argument => "unexpected argument '" ++ argument ++ "' found"
  | .unexpectedValue value flag =>
    "unexpected value '" ++ value ++ "' for '" ++ flag.text ++ "' found; no more were expected"
  | .valueMissing setting => "a value is required for '" ++ setting.text ++ "' but none was supplied"
  | .repeated setting => "the argument '" ++ setting.text ++ "' cannot be used multiple times"
  | .notProvided settings =>
    "the following required arguments were not provided:"
      ++ String.join (settings.map fun setting => "\n  " ++ setting.text)

/-- Arguments as far as they have been read. The option that was read last is taken up only when the next one comes
or the arguments end; its value may still be to come. -/
structure Draft where
  values : List (Setting × String) := []
  verbosity : Nat := 0
  pending : Option (Setting × Option String) := none

/-- Reading ends early when help is asked for or something is wrong. -/
inductive Stop where
  | help
  | fault (fault : UsageFault)

namespace Draft

/-- Takes up an option with its value. An option is given once. -/
def take (draft : Draft) (setting : Setting) (value : String) : Except Stop Draft :=
  if draft.values.any (·.1 = setting) then .error (.fault (.repeated setting))
  else if setting.needsText && value = "" then .error (.fault (.valueMissing setting))
  else .ok { draft with values := (setting, value) :: draft.values }

/-- Takes up the option that is pending. -/
def settle (draft : Draft) : Except Stop Draft :=
  match draft.pending with
  | none => .ok draft
  | some (setting, none) => .error (.fault (.valueMissing setting))
  | some (setting, some value) => { draft with pending := none }.take setting value

/-- Reads an option, with its value if that is attached. -/
def assign (draft : Draft) (setting : Setting) (value : Option String) : Except Stop Draft := do
  let draft ← draft.settle
  match value with
  | some value => draft.take setting value
  | none => return { draft with pending := some (setting, none) }

/-- Reads a flag. -/
def raise (draft : Draft) (flag : Flag) : Except Stop Draft := do
  let draft ← draft.settle
  match flag with
  | .verbose => return { draft with verbosity := draft.verbosity + 1 }
  | .help => throw .help

/-- Reads a name with the value that is attached to it. -/
def readName (draft : Draft) (name : String) (value : Option String) : Except Stop Draft :=
  match Setting.ofName? name, Flag.ofName? name, value with
  | some setting, _, _ => draft.assign setting value
  | none, some flag, none => draft.raise flag
  | none, some flag, some value => .error (.fault (.unexpectedValue value flag))
  | none, none, _ => .error (.fault (.unexpected ("--" ++ name)))

/-- Reads letters. What follows the letter of an option is its value, with or without an equals sign. -/
def readLetters (draft : Draft) : List Char → Except Stop Draft
  | [] => .ok draft
  | letter :: rest =>
    match Setting.ofLetter? letter, Flag.ofLetter? letter with
    | some setting, _ =>
      let value := match rest with
        | [] => none
        | '=' :: value => some (String.ofList value)
        | value => some (String.ofList value)
      draft.assign setting value
    | none, some flag => do (← draft.raise flag).readLetters rest
    | none, none => .error (.fault (.unexpected ("-" ++ letter.toString)))

/-- Reads an argument that names nothing: the value of the option before it. -/
def readValue (draft : Draft) (value : String) : Except Stop Draft :=
  match draft.pending with
  | some (setting, none) => .ok { draft with pending := some (setting, some value) }
  | _ => .error (.fault (.unexpected value))

/-- Reads arguments. Behind two hyphens nothing is a name. -/
def read (draft : Draft) : List String → Except Stop Draft
  | [] => draft.settle
  | argument :: rest =>
    match argument.toList with
    | ['-', '-'] =>
      match rest with
      | [] => draft.settle
      | next :: _ => .error (.fault (.unexpected next))
    | '-' :: '-' :: text => do
      let (name, value) := text.span (· ≠ '=')
      let value := if value.isEmpty then none else some (String.ofList (value.drop 1))
      (← draft.readName (String.ofList name) value).read rest
    | '-' :: letter :: letters => do (← draft.readLetters (letter :: letters)).read rest
    | _ => do (← draft.readValue argument).read rest

/-- The value of an option. -/
def value? (draft : Draft) (setting : Setting) : Option String := draft.values.lookup setting

/-- What the arguments ask for. -/
def command (draft : Draft) : Except Stop Command :=
  match draft.value? .input, draft.value? .template, draft.value? .rootInterface, draft.value? .output with
  | some input, some template, some rootInterface, some output =>
    .ok
      { input, template, rootInterface, output, filter := draft.value? .filter, exclude := draft.value? .exclude,
        verbosity := draft.verbosity }
  | _, _, _, _ =>
    .error (.fault (.notProvided (Setting.all.filter fun setting => setting.isNeeded && (draft.value? setting).isNone)))

end Draft

/-- Reads what the arguments ask for. -/
def ofArguments (arguments : List String) : Except Stop Command := do (← Draft.read {} arguments).command

end Command
end SchemaSdl
