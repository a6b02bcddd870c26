import SchemaSdl.Pattern.Extended.Expr

/-! The grammar of extended patterns. Places are counted in bytes. Loops take as much fuel as the pattern has
characters, and a little more. -/

namespace SchemaSdl.Pattern.Extended

/-- The switches in force. -/
structure Mode where
  ignoreCase : Bool := false
  multiLine : Bool := false
  dotMatchesAll : Bool := false
  swapGreed : Bool := false
  ignoreBlanks : Bool := false

/-- What is left of a pattern, and what has been met so far. -/
structure Cursor where
  rest : List Char
  place : Nat := 0
  mode : Mode := {}
  /-- How many groups have been opened. -/
  groups : Nat := 0
  names : List (String × Nat) := []
  /-- Whether a group has been referred to by number. -/
  numbered : Bool := false
  referenced : List Nat := []

/-- A step of reading a pattern. -/
abbrev Grammar := StateT Cursor (Except Fault)

namespace Grammar

/-! ### Characters -/

/-- Fails at a place. -/
def failAt (place : Nat) (cause : Cause) : Grammar α := throw (.reading place cause)

/-- The place reached. -/
def here : Grammar Nat := return (← get).place

/-- The character ahead. -/
def peek : Grammar (Option Char) := return (← get).rest.head?

/-- Whether some characters are ahead. -/
def isAhead (text : String) : Grammar Bool := return text.toList.isPrefixOf (← get).rest

/-- How many bytes some characters take. -/
def sizeOf (chars : List Char) : Nat := chars.foldl (fun size c => size + c.utf8Size) 0

/-- Passes over so many characters. -/
def skip (count : Nat) : Grammar Unit :=
  modify fun cursor =>
    { cursor with rest := cursor.rest.drop count, place := cursor.place + sizeOf (cursor.rest.take count) }

/-- The comment that a parenthesis opened is passed over; what is left behind it, and the place. -/
def afterComment (place : Nat) : List Char → Except Fault (List Char × Nat)
  | [] => .error (.reading place .parenthesisOpen)
  | [c] =>
    if c = ')' then .ok ([], place + 1)
    else .error (.reading (place + if c = '\\' then 2 else c.utf8Size) .parenthesisOpen)
  | c :: d :: rest =>
    if c = ')' then .ok (d :: rest, place + 1)
    else if c = '\\' then afterComment (place + 1 + d.utf8Size) rest
    else afterComment (place + c.utf8Size) (d :: rest)

/-- Passes over comments, and over blanks and comments by line where they mean nothing. -/
def blanks : (fuel : Nat) → Grammar Unit
  | 0 => return ()
  | fuel + 1 => do
    let cursor ← get
    match cursor.rest with
    | '#' :: rest =>
      if cursor.mode.ignoreBlanks then
        skip (min (1 + (rest.takeWhile (· ≠ '\n')).length + 1) cursor.rest.length)
        blanks fuel
    | '(' :: '?' :: '#' :: rest =>
      match afterComment (cursor.place + 3) rest with
      | .error fault => throw fault
      | .ok (rest, place) =>
        set { cursor with rest, place }
        blanks fuel
    | c :: _ =>
      if cursor.mode.ignoreBlanks && (c = ' ' || c = '\r' || c = '\n' || c = '\t') then
        skip 1
        blanks fuel
    | [] => return ()

/-- The number of some decimal digits. -/
def decimalNumber (digits : List Char) : Nat := digits.foldl (fun n c => n * 10 + (c.toNat - 48)) 0

/-- A decimal number that fits eight bytes, if one is ahead. -/
def decimal? : Grammar (Option Nat) := do
  let digits := (← get).rest.takeWhile Char.isDigit
  if digits.isEmpty || Nat.pow 2 64 ≤ decimalNumber digits then return none
  else
    skip digits.length
    return some (decimalNumber digits)

/-! ### References to groups -/

/-- A character of a group's name. -/
def isNameChar (c : Char) : Bool := c = '_' || Property.alphanumeric.contains c

/-- A name between two marks, if one is ahead. It may have a minus sign where it may be relative. -/
def name? (opening closing : String) (relative : Bool) (text : List Char) : Option (List Char × Nat) :=
  if !opening.toList.isPrefixOf text || sizeOf text ≤ opening.length + closing.length then none
  else
    let inner := text.drop opening.length
    let sign := if relative && inner.head? = some '-' then ['-'] else []
    let name := sign ++ (inner.drop sign.length).takeWhile isNameChar
    if name.length = sign.length || !closing.toList.isPrefixOf (inner.drop name.length) then none
    else some (name, opening.length + name.length + closing.length)

/-- The group that a name or a number stands for. A negative number counts back from the last group opened. -/
def groupOf? (cursor : Cursor) (name : List Char) : Option Nat :=
  match cursor.names.lookup (String.ofList name), name with
  | some number, _ => some number
  | none, '-' :: digits =>
    if digits.isEmpty || !digits.all Char.isDigit || cursor.groups + 1 < decimalNumber digits then none
    else some (cursor.groups + 1 - decimalNumber digits)
  | none, digits => if digits.all Char.isDigit then some (decimalNumber digits) else none

/-- A reference to a group by name. -/
def namedReference (opening closing : String) (relative : Bool) : Grammar Expr := do
  let cursor ← get
  match name? opening closing relative cursor.rest with
  | none => failAt cursor.place .groupNameBroken
  | some (name, length) =>
    match groupOf? cursor name with
    | none => failAt cursor.place (.groupNameUnknown (String.ofList name))
    | some number =>
      modify fun cursor => { cursor with referenced := number :: cursor.referenced }
      skip length
      return .backReference number

/-- A reference to a group by number. The number may not be out of all proportion. -/
def numberedReference (size : Nat) : Grammar Expr := do
  let start ← here
  match ← decimal? with
  | some number =>
    if number < size / 2 then
      modify fun cursor => { cursor with referenced := number :: cursor.referenced, numbered := true }
      return .backReference number
    else failAt start .backReferenceBroken
  | none => failAt start .backReferenceBroken

/-! ### Escapes and classes -/

/-- A hexadecimal digit. -/
def isHex (c : Char) : Bool := c.isDigit || ('a' ≤ c && c ≤ 'f') || ('A' ≤ c && c ≤ 'F')

/-- The number of some hexadecimal digits. -/
def hexNumber (digits : List Char) : Nat :=
  digits.foldl (fun n c =>
    n * 16 + (if c.isDigit then c.toNat - 48 else if c.toNat < 97 then c.toNat - 55 else c.toNat - 87)) 0

/-- A character that stands for itself. -/
def literal (c : Char) : Grammar Expr := return .literal c (← get).mode.ignoreCase

/-- A character of a class that is written as a plain pattern. -/
def oneOf (text : List Char) : Grammar Expr := return .oneOf (String.ofList text) (← get).mode.ignoreCase

/-- A character by its code point: so many digits, or up to eight of them in braces. -/
def hexEscape (count : Nat) : Grammar Expr := do
  let start ← here
  let rest := (← get).rest
  let plain := rest.take count
  let inBraces := (rest.drop 1).takeWhile isHex
  let digits? :=
    if plain.length = count && plain.all isHex then some (plain, count)
    else if rest.head? = some '{' && !inBraces.isEmpty && inBraces.length ≤ 8
        && (rest.drop (1 + inBraces.length)).head? = some '}' then some (inBraces, inBraces.length + 2)
    else none
  match digits? with
  | none => failAt start .hexBroken
  | some (digits, length) =>
    if h : (hexNumber digits).isValidChar then
      skip length
      literal (Char.ofNatAux _ h)
    else failAt start .noCharacter

/-- A class by property, the letter after the backslash having been passed. -/
def propertyClass (start : Nat) (letter : Char) : Grammar Expr := do
  let rest := (← get).rest
  let name := rest.takeWhile (· ≠ '}')
  if rest.head? = some '{' then
    if name.length = rest.length then failAt start .propertyOpen
    else
      skip (name.length + 1)
      oneOf (['\\', letter] ++ name ++ ['}'])
  else
    skip 1
    oneOf (['\\', letter] ++ rest.take 1)

/-- An escape. Inside a bracket there are only characters and classes. -/
def escape (size : Nat) (inBracket : Bool) : Grammar Expr := do
  let start ← here
  match (← get).rest.drop 1 with
  | [] => failAt start .backslashLast
  | c :: rest =>
    let unknown := failAt start (.escapeUnknown (String.ofList ['\\', c]))
    let assertion := fun (look : Look) => do
      skip 2
      return Expr.look look
    let special := fun (c : Char) => do
      skip 2
      literal c
    if c.isDigit then
      skip 1
      numberedReference size
    else if c = 'k' && !inBracket then
      skip 2
      if rest.head? = some '\'' then namedReference "'" "'" true else namedReference "<" ">" true
    else if c = 'A' && !inBracket then assertion .start
    else if c = 'z' && !inBracket then assertion .stop
    else if c = 'b' && !inBracket then
      if rest.head? = some '{' then unknown else assertion (.wordBoundary false)
    else if c = 'B' && !inBracket then
      if rest.head? = some '{' then unknown else assertion (.notWordBoundary false)
    else if c = '<' && !inBracket then assertion (.wordStart false)
    else if c = '>' && !inBracket then assertion (.wordStop false)
    else if ['d', 'D', 's', 'S', 'w', 'W'].contains c then
      skip 2
      oneOf ['\\', c]
    else if c = 'h' || c = 'H' then
      skip 2
      return .oneOf (if c = 'h' then "[0-9A-Fa-f]" else "[^0-9A-Fa-f]") false
    else if c = 'x' || c = 'u' || c = 'U' then
      skip 2
      hexEscape (if c = 'x' then 2 else if c = 'u' then 4 else 8)
    else if (c = 'p' || c = 'P') && !rest.isEmpty then
      skip 2
      propertyClass start c
    else if c = 'K' && !inBracket then
      skip 2
      return .keepOut
    else if c = 'G' && !inBracket then
      skip 2
      return .searchStart
    else if c = 'a' then special '\x07'
    else if c = 'b' && inBracket then special '\x08'
    else if c = 'e' then special '\x1b'
    else if c = 'f' then special '\x0c'
    else if c = 'n' then special '\n'
    else if c = 'r' then special '\r'
    else if c = 't' then special '\t'
    else if c = 'v' then special '\x0b'
    else if c.isAlpha then unknown
    else special c

/-- A character as plain patterns write it where it might mean something else. -/
def plainText (c : Char) : List Char :=
  if "\\.+*?()|[]\x7b\x7d^$#&-~".toList.contains c then ['\\', c] else [c]

/-- What follows in a bracket, so many brackets being open; the text read so far is given latest first. -/
def bracketRest (size : Nat) (text : List Char) (opened : Nat) : (fuel : Nat) → Grammar (List Char)
  | 0 => do failAt (← here) .classBroken
  | fuel + 1 => do
    let start ← here
    match ← peek with
    | none => failAt start .classBroken
    | some '\\' =>
      match ← escape size true with
      | .literal c _ => bracketRest size ((plainText c).reverse ++ text) opened fuel
      | .oneOf inner _ => bracketRest size (inner.toList.reverse ++ text) opened fuel
      | _ => failAt start .classBroken
    | some ']' =>
      skip 1
      if opened ≤ 1 then return (']' :: text).reverse else bracketRest size (']' :: text) (opened - 1) fuel
    | some c =>
      skip 1
      bracketRest size (c :: text) (if c = '[' then opened + 1 else opened) fuel

/-- A bracket. A closing bracket at its front stands for itself. -/
def bracket (size fuel : Nat) : Grammar Expr := do
  skip 1
  let negated := (← peek) = some '^'
  if negated then skip 1
  let closing := (← peek) = some ']'
  if closing then skip 1
  let front := ['['] ++ (if negated then ['^'] else []) ++ (if closing then ['\\', ']'] else [])
  oneOf (← bracketRest size front.reverse 1 fuel)

/-! ### Repetitions -/

/-- What can be repeated: no condition on a place and not nothing. -/
def isRepeatable : Expr → Bool
  | .around .. | .empty | .look _ => false
  | _ => true

/-- A repetition by count in braces, if one is ahead. -/
def count? (fuel : Nat) : Grammar (Option (Nat × Option Nat)) := do
  let before ← get
  let counted : Grammar (Option (Nat × Option Nat)) := do
    skip 1
    blanks fuel
    let least ← if (← peek) = some ',' then pure (some 0) else decimal?
    match least with
    | none => return none
    | some least =>
      blanks fuel
      let most : Option (Option Nat) ← match ← peek with
        | some '}' => pure (some (some least))
        | some ',' =>
          skip 1
          blanks fuel
          some <$> decimal?
        | _ => pure none
      blanks fuel
      match most with
      | none => return none
      | some most =>
        if (← peek) = some '}' then
          skip 1
          return some (least, if most = some (Nat.pow 2 64 - 1) then none else most)
        else return none
  match counted before with
  | .ok (some bounds, cursor) =>
    set cursor
    return some bounds
  | _ => return none

/-- The bounds of the repetition that is ahead, if there is one. -/
def bounds? (fuel : Nat) : Grammar (Option (Nat × Option Nat)) := do
  match ← peek with
  | some '?' => return some (0, some 1)
  | some '*' => return some (0, none)
  | some '+' => return some (1, none)
  | some '{' =>
    let before ← get
    let bounds ← count? fuel
    set before
    return bounds
  | _ => return none

/-- Passes over a repetition. -/
def skipBounds (fuel : Nat) : Grammar Unit := do
  if (← peek) = some '{' then
    let _ ← count? fuel
  else skip 1

/-- A part and the repetition after it, if there is one. -/
def repetition (fuel : Nat) (inner : Expr) : Grammar Expr := do
  blanks fuel
  match ← bounds? fuel with
  | none => return inner
  | some (least, most) =>
    let start ← here
    let braced := (← peek) = some '{'
    skipBounds fuel
    let stop ← here
    if !isRepeatable inner then failAt (if braced then stop - 1 else start) .repetitionOfNothing
    else
      blanks fuel
      let lazy := (← peek) = some '?'
      if lazy then skip 1
      let greedy := !lazy != (← get).mode.swapGreed
      if (← peek) = some '+' then
        skip 1
        return .atomic (.repeated least most greedy inner)
      else return .repeated least most greedy inner

/-- Parts in a row: one alone stands for itself. -/
def rowOf : List Expr → Expr
  | [] => .empty
  | [part] => part
  | parts => .concat parts

/-! ### Groups -/

/-- How deep groups may be nested. -/
def depthLimit : Nat := 64

/-- Passes over a closing parenthesis. -/
def close (fuel : Nat) : Grammar Unit := do
  blanks fuel
  match ← peek with
  | none => failAt (← here) .parenthesisOpen
  | some ')' => skip 1
  | some _ => failAt (← here) .parenthesisExpected

/-- Turns a switch on or off by its letter. -/
def switch (mode : Mode) (on : Bool) (c : Char) : Option Mode :=
  if c = 'i' then some { mode with ignoreCase := on }
  else if c = 'm' then some { mode with multiLine := on }
  else if c = 's' then some { mode with dotMatchesAll := on }
  else if c = 'U' then some { mode with swapGreed := on }
  else if c = 'x' then some { mode with ignoreBlanks := on }
  else none

/-- Switches up to a colon or a closing parenthesis; whether a colon ended them. -/
def flags (start : Cursor) (negated : Bool) : (fuel : Nat) → Grammar Bool
  | 0 => do failAt (← here) .parenthesisOpen
  | fuel + 1 => do
    blanks fuel
    let cursor ← get
    let passed := start.rest.take (start.rest.length - cursor.rest.length)
    match cursor.rest with
    | [] => failAt cursor.place .parenthesisOpen
    | c :: _ =>
      let unknown := failAt start.place (.flagUnknown (String.ofList (['(', '?'] ++ passed ++ [c])))
      match switch cursor.mode (!negated) c with
      | some mode =>
        set { cursor with mode }
        skip 1
        flags start negated fuel
      | none =>
        let dangling := negated && passed.getLast? = some '-'
        if c = 'u' then
          if negated then failAt cursor.place .unicodeNeeded
          else
            skip 1
            flags start negated fuel
        else if c = '-' && !negated then
          skip 1
          flags start true fuel
        else if c = ')' && !passed.isEmpty && !dangling then
          skip 1
          return false
        else if c = ':' && !dangling then
          skip 1
          return true
        else unknown

/-- What is matched when a condition holds, and what otherwise. -/
def branches : Expr → Expr × Expr
  | .alternation (yes :: [no]) => (yes, no)
  | .alternation (yes :: rest) => (yes, .alternation rest)
  | yes => (yes, .empty)

/-- A condition: a reference to a group asks whether that has matched. -/
def asCondition : Expr → Expr
  | .backReference number => .groupMatched number
  | condition => condition

/-- A group that is opened by a name. -/
def namedGroup (skipped : Nat) (opening closing : String) : Grammar Nat := do
  modify fun cursor => { cursor with groups := cursor.groups + 1 }
  let cursor ← get
  match name? opening closing false (cursor.rest.drop skipped) with
  | none => failAt cursor.place .groupNameBroken
  | some (name, length) =>
    let names := (String.ofList name, cursor.groups) :: cursor.names.filter (·.1 ≠ String.ofList name)
    set { cursor with names }
    skip (skipped + length)
    return cursor.groups

mutual

/-- Choices, up to the end of the group that they are in. -/
def choices (size depth fuel : Nat) : Grammar Expr := do
  match fuel with
  | 0 => failAt (← here) .tooDeep
  | fuel + 1 =>
    let first ← row size depth fuel []
    blanks fuel
    if (← peek) = some '|' then return .alternation (first :: (← moreChoices size depth fuel))
    else
      let cursor ← get
      if cursor.numbered && !cursor.names.isEmpty then throw .numberedBesideNamed else return first

/-- Further choices, the bar before them being ahead. -/
def moreChoices (size depth fuel : Nat) : Grammar (List Expr) := do
  match fuel with
  | 0 => failAt (← here) .tooDeep
  | fuel + 1 =>
    if (← peek) = some '|' then
      skip 1
      let choice ← row size depth fuel []
      blanks fuel
      return choice :: (← moreChoices size depth fuel)
    else return []

/-- Parts in a row, those read so far being given latest first. -/
def row (size depth fuel : Nat) (parts : List Expr) : Grammar Expr := do
  match fuel with
  | 0 => failAt (← here) .tooDeep
  | fuel + 1 =>
    let start ← here
    if (← peek).isNone then return rowOf parts.reverse
    else
      let part ← repetition fuel (← atom size depth fuel)
      if (← here) = start then return rowOf parts.reverse
      else row size depth fuel (if part.isEmpty then parts else part :: parts)

/-- A part without the repetition after it. -/
def atom (size depth fuel : Nat) : Grammar Expr := do
  match fuel with
  | 0 => failAt (← here) .tooDeep
  | fuel + 1 =>
    blanks fuel
    let mode := (← get).mode
    match ← peek with
    | none => return .empty
    | some '.' =>
      skip 1
      return .any mode.dotMatchesAll
    | some '^' =>
      skip 1
      return .look (if mode.multiLine then .lineStart else .start)
    | some '$' =>
      skip 1
      return .look (if mode.multiLine then .lineStop else .stop)
    | some '(' => group size depth fuel
    | some '\\' => escape size false
    | some '+' | some '*' | some '?' | some '|' | some ')' => return .empty
    | some '[' => bracket size fuel
    | some c =>
      skip 1
      literal c

/-- A group of any kind. -/
def group (size depth fuel : Nat) : Grammar Expr := do
  match fuel with
  | 0 => failAt (← here) .tooDeep
  | fuel + 1 =>
    let depth := depth + 1
    if depthLimit ≤ depth then failAt (← here) .tooDeep
    else
      skip 1
      blanks fuel
      let inside := fun (wrap : Expr → Expr) => do
        let inner ← choices size depth fuel
        close fuel
        return wrap inner
      if ← isAhead "?=" then
        skip 2
        inside (.around ⟨false, false⟩)
      else if ← isAhead "?!" then
        skip 2
        inside (.around ⟨false, true⟩)
      else if ← isAhead "?<=" then
        skip 3
        inside (.around ⟨true, false⟩)
      else if ← isAhead "?<!" then
        skip 3
        inside (.around ⟨true, true⟩)
      else if ← isAhead "?<" then inside (.group (← namedGroup 1 "<" ">"))
      else if ← isAhead "?'" then inside (.group (← namedGroup 1 "'" "'"))
      else if ← isAhead "?P<" then inside (.group (← namedGroup 2 "<" ">"))
      else if ← isAhead "?P=" then
        skip 3
        namedReference "" ")" false
      else if ← isAhead "?>" then
        skip 2
        inside .atomic
      else if ← isAhead "?(" then
        skip 2
        conditional size depth fuel
      else if ← isAhead "?" then
        skip 1
        let start ← get
        if ← flags start false (fuel + 1) then
          let inner ← choices size depth fuel
          close fuel
          modify fun cursor => { cursor with mode := start.mode }
          return inner
        else return .empty
      else
        modify fun cursor => { cursor with groups := cursor.groups + 1 }
        inside (.group (← get).groups)

/-- A condition and what depends on it, from behind the parenthesis before the condition. -/
def conditional (size depth fuel : Nat) : Grammar Expr := do
  match fuel with
  | 0 => failAt (← here) .tooDeep
  | fuel + 1 =>
    let condition ← match ← peek with
      | none => failAt (← here) .parenthesisOpen
      | some '\'' => namedReference "'" "'" true
      | some '<' => namedReference "<" ">" true
      | some c => if c.isDigit then numberedReference size else choices size depth fuel
    close fuel
    let start ← here
    let inner ← choices size depth fuel
    if (← here) = start then
      match condition with
      | .backReference number =>
        close fuel
        return .groupMatched number
      | _ => failAt start .conditionUseless
    else
      let (yes, no) := branches inner
      close fuel
      if yes.isEmpty && no.isEmpty then return asCondition condition
      else return .conditional (asCondition condition) yes no

end

/-- A whole pattern. -/
def pattern (size fuel : Nat) : Grammar Expr := do
  let expr ← choices size 0 fuel
  if (← peek).isSome then failAt (← here) .leftOver else return expr

end Grammar

/-- A pattern as it was read, with the groups that are referred to. -/
structure Reading where
  expr : Expr
  referenced : List Nat

/-- Reads a pattern. -/
def Reading.ofText (text : String) : Except Fault Reading := do
  let (expr, cursor) ← (Grammar.pattern text.utf8ByteSize (5 * text.length + 10)).run { rest := text.toList }
  return ⟨expr, cursor.referenced⟩

end SchemaSdl.Pattern.Extended
