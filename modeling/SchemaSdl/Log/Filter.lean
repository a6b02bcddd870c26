import SchemaSdl.Log.Event
import SchemaSdl.Pattern.Property
import SchemaSdl.Text.Blank
import SchemaSdl.Text.Pieces

/-! Which events are shown. A filter is a list of directives, and of those that concern an event the most specific
one decides. -/

namespace SchemaSdl.Log

/-- Shows the events of some areas, those whose names begin with its own, that have a value of some name, from a level
up. Without a level it shows none of them. -/
structure Directive where
  area : Option String
  value : Option String
  level : Option Level
deriving DecidableEq

/-- Directives in the order in which they were given. -/
structure Filter where
  directives : List Directive

namespace Directive

/-- Whether a directive says anything about an event. -/
def concerns (directive : Directive) (event : Event) : Bool :=
  (directive.area.all fun area => area.toList.isPrefixOf event.area.toList)
    && directive.value.all fun name => name = "message" || event.values.any (·.1 = name)

/-- Whether a directive that concerns an event shows it. -/
def shows (directive : Directive) (event : Event) : Bool := directive.level.any fun level => event.level.rank ≤ level.rank

/-- Whether a directive is at least as specific as another: by the length of the area, then by the value. -/
def outranks (directive other : Directive) : Bool :=
  let length (d : Directive) : Nat := (d.area.map (·.length + 1)).getD 0
  if length directive ≠ length other then length other < length directive
  else
    match directive.value, other.value with
    | _, none => true
    | none, some _ => false
    | some value, some otherValue => otherValue ≤ value

end Directive

namespace Filter

/-- The most specific of the directives that concern an event, and the last of those that are alike. -/
def decisive? (filter : Filter) (event : Event) : Option Directive :=
  (filter.directives.filter (·.concerns event)).foldl
    (fun best directive => if best.all directive.outranks then some directive else best) none

/-- Whether an event is shown. -/
def shows (filter : Filter) (event : Event) : Bool := (filter.decisive? event).any (·.shows event)

/-- The filter that a program starts from: its own events from a level up, the more the more often more was asked for. -/
def ofVerbosity (verbosity : Nat) : Filter :=
  let level := match verbosity with | 0 => .warn | 1 => .info | 2 => .debug | _ => .trace
  ⟨[⟨some "swagger_gql", none, some level⟩]⟩

end Filter

/-! ### Reading filters -/

/-- The level that a word names, by name or by rank, or the one that shows nothing. -/
def levelOfWord? (word : String) : Option (Option Level) :=
  let digits := if word.toList.head? = some '+' then word.toList.drop 1 else word.toList
  let lower := String.ofList (word.toList.map Char.toLower)
  if !digits.isEmpty && digits.all Char.isDigit then
    match digits.foldl (fun n c => n * 10 + (c.toNat - '0'.toNat)) 0 with
    | 0 => some none
    | 1 => some (some .error)
    | 2 => some (some .warn)
    | 3 => some (some .info)
    | 4 => some (some .debug)
    | 5 => some (some .trace)
    | _ => none
  else if lower = "off" then some none
  else if lower = "error" then some (some .error)
  else if lower = "warn" then some (some .warn)
  else if lower = "info" then some (some .info)
  else if lower = "debug" then some (some .debug)
  else if lower = "trace" then some (some .trace)
  else none

/-- A text to be read a character at a time: each character to go by, together with the one to take. -/
abbrev Readable := List (Char × Char)

/-- The text that has been taken. -/
def taken (part : Readable) : String := String.ofList (part.map Prod.snd)

/-- A text without the blanks around it. -/
def trimmed (text : List Char) : List Char :=
  ((text.dropWhile Text.isBlank).reverse.dropWhile Text.isBlank).reverse

/-- What a written directive says: it may be limited to spans of a name, and to what has a field. -/
structure Draft where
  area : Option String := none
  span : Option String := none
  field : Option String := none
  level : Option Level := some .trace

/-- The directive on events, if there is one: no event lies in a span, and none is chosen by what a field holds. -/
def Draft.directive? (draft : Draft) : Option Directive :=
  if draft.span.isSome || draft.field.any fun field => '=' ∈ field.toList then none
  else some ⟨draft.area, draft.field, draft.level⟩

namespace Draft

/-- Reads the level, everything being shown when none is written. -/
def readLevel (draft : Draft) (rest : Readable) (left : List Char) : Option Draft :=
  let word := taken rest ++ String.ofList left
  if word = "" then some draft else (levelOfWord? word).map fun level => { draft with level }

/-- Reads on behind brackets. -/
def readAfter (draft : Draft) (rest : Readable) (left : List Char) : Option Draft :=
  match rest with
  | [] => some draft
  | ('=', _) :: rest => draft.readLevel rest left
  | _ => none

/-- Reads on behind an opening bracket: a span and a field in braces, either of which may be left out. -/
def readBrackets (draft : Draft) (rest : Readable) (left : List Char) : Option Draft :=
  let (span, rest) := rest.span fun (c, _) => c ≠ ']' && c ≠ '\x7b'
  match rest with
  | (']', _) :: rest => { draft with span := some (taken span) }.readAfter rest left
  | ('\x7b', _) :: rest =>
    let (field, rest) := rest.span fun (c, _) => c ≠ '\x7d'
    match rest with
    | (_, _) :: (']', _) :: rest =>
      if field.isEmpty then none
      else
        let span := if span.isEmpty then none else some (taken span)
        { draft with span, field := some (taken field) }.readAfter rest left
    | _ => none
  | _ => none

/-- Reads a directive. The text is looked at without the blanks around it, but its parts are taken from the same
places of the whole text. -/
def ofText? (text : List Char) : Option Draft :=
  let seen := trimmed text
  let left := text.drop seen.length
  match seen.head? with
  | none => none
  | some first =>
    let (name, rest) := (seen.zip text).span fun (c, _) => c ≠ '=' && c ≠ '['
    if !(first = '[' || first = '-' || first = ':' || first = '_' || Pattern.Property.alphanumeric.contains first) then none
    else
      match rest with
      | [] =>
        let word := taken name ++ String.ofList left
        match levelOfWord? word with
        | some level => some { level }
        | none => some { area := some word }
      | (c, _) :: rest =>
        if c = '=' then { area := some (taken name) : Draft }.readLevel rest left
        else readBrackets { area := if name.isEmpty then none else some (taken name) } rest left

end Draft

/-- Reads a filter: directives between commas. -/
def Filter.ofText? (text : String) : Option Filter := do
  let drafts ← ((Text.cut ',' text.toList).filter (· ≠ [])).mapM Draft.ofText?
  return ⟨drafts.filterMap Draft.directive?⟩

end SchemaSdl.Log
