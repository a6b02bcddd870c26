import SchemaSdl.Pattern.Plain.Syntax
import SchemaSdl.Pattern.Property
import SchemaSdl.Text.Blank

/-! The grammar of plain patterns. Loops take as much fuel as the pattern has characters, and a little more. -/

namespace SchemaSdl.Pattern.Plain

/-- What is left of a pattern, and what has been met so far. -/
structure Cursor where
  rest : List Char
  place : Place := {}
  ignoreBlanks : Bool := false
  names : List (String × Span) := []

/-- A step of reading a pattern. -/
abbrev Grammar := StateT Cursor (Except Fault)

namespace Grammar

/-! ### Characters -/

/-- The place reached. -/
def here : Grammar Place := return (← get).place

/-- The character ahead. -/
def peek : Grammar (Option Char) := return (← get).rest.head?

/-- Fails with a span. -/
def fail (cause : Cause) (span : Span) : Grammar α := throw ⟨cause, span, none⟩

/-- Fails at the place reached. -/
def failHere (cause : Cause) : Grammar α := do
  let place ← here
  fail cause ⟨place, place⟩

/-- The span from a place to the one reached. -/
def spanFrom (start : Place) : Grammar Span := return ⟨start, ← here⟩

/-- The span of the character ahead. -/
def charSpan : Grammar Span := do
  let cursor ← get
  return ⟨cursor.place, (cursor.rest.head?.map cursor.place.after).getD cursor.place⟩

/-- Passes over a character and tells whether there is another. -/
def bump : Grammar Bool := do
  let cursor ← get
  match cursor.rest with
  | [] => return false
  | c :: rest =>
    set { cursor with rest, place := cursor.place.after c }
    return !rest.isEmpty

/-- Passes over some characters if they are ahead. -/
def bumpIf (text : String) : Grammar Bool := do
  if text.toList.isPrefixOf (← get).rest then
    for _ in text.toList do
      let _ ← bump
    return true
  else return false

/-- What is left behind blanks and comments. -/
def afterBlanks (inComment : Bool) (place : Place) : List Char → List Char × Place
  | [] => ([], place)
  | c :: rest =>
    if inComment then afterBlanks (c ≠ '\n') (place.after c) rest
    else if Text.isBlank c then afterBlanks false (place.after c) rest
    else if c = '#' then afterBlanks true (place.after c) rest
    else (c :: rest, place)

/-- Passes over blanks and comments where they mean nothing. -/
def bumpBlanks : Grammar Unit := do
  let cursor ← get
  if cursor.ignoreBlanks then
    let (rest, place) := afterBlanks false cursor.place cursor.rest
    set { cursor with rest, place }

/-- Passes over a character and the blanks after it, and tells whether there is another. -/
def bumpAndBlanks : Grammar Bool := do
  if !(← bump) then return false
  bumpBlanks
  return (← peek).isSome

/-- Passes over a character and the blanks after it on a condition, and fails if nothing is left then. -/
def bumpAndBlanksIf (condition : Bool) (atEnd : Grammar Unit) : Grammar Unit := do
  if condition then
    if !(← bumpAndBlanks) then atEnd

/-- The character behind the one ahead and the blanks after that. -/
def peekBehindBlanks : Grammar (Option Char) := do
  let cursor ← get
  let rest := cursor.rest.tail
  if cursor.ignoreBlanks then
    let rest := rest.dropWhile Text.isBlank
    return (if rest.head? = some '#' then rest.tail.dropWhile Text.isBlank else rest).head?
  else return rest.head?

/-! ### Numbers and escapes -/

/-- The number of some decimal or hexadecimal digits. -/
def numberOf (base : Nat) (digits : List Char) : Nat :=
  digits.foldl (fun n c =>
    n * base + (if c.isDigit then c.toNat - 48 else if c.toNat < 97 then c.toNat - 55 else c.toNat - 87)) 0

/-- A hexadecimal digit. -/
def isHex (c : Char) : Bool := c.isDigit || ('a' ≤ c && c ≤ 'f') || ('A' ≤ c && c ≤ 'F')

/-- Passes over characters for which a test holds, and over blanks after each, and gives them. -/
def takeSpaced (test : Char → Bool) : (fuel : Nat) → Grammar (List Char)
  | 0 => return []
  | fuel + 1 => do
    match ← peek with
    | some c =>
      if test c then
        let _ ← bumpAndBlanks
        return c :: (← takeSpaced test fuel)
      else return []
    | none => return []

/-- A decimal number that fits four bytes, with blanks around it. -/
def decimal (fuel : Nat) : Grammar Nat := do
  let _ ← takeSpaced Text.isBlank fuel
  let start ← here
  let digits ← takeSpaced Char.isDigit fuel
  let span ← spanFrom start
  let _ ← takeSpaced Text.isBlank fuel
  if digits.isEmpty then fail .decimalAbsent span
  else if numberOf 10 digits < Nat.pow 2 32 then return numberOf 10 digits
  else fail .decimalTooLarge span

/-- A decimal number in a repetition. -/
def countDecimal (fuel : Nat) : Grammar Nat := fun cursor =>
  match decimal fuel cursor with
  | .error ⟨.decimalAbsent, span, earlier⟩ => .error ⟨.countNumber, span, earlier⟩
  | outcome => outcome

/-- The character with a code point. -/
def char? (n : Nat) : Option Char := if h : n.isValidChar then some (Char.ofNatAux n h) else none

/-- One part of a pattern that has no parts itself. -/
inductive Primitive where
  | literal (span : Span) (char : Char) (byte : Bool)
  | assertion (span : Span) (assertion : Assertion)
  | dot (span : Span)
  | letter (span : Span) (negated : Bool) (letter : LetterClass)
  | property (span : Span) (negated : Bool) (name : PropertyName)

/-- So many hexadecimal digits. -/
def hexDigits (first : Bool) : (count : Nat) → Grammar (List Char)
  | 0 => return []
  | count + 1 => do
    bumpAndBlanksIf (!first) (failHere .escapeCut)
    match ← peek with
    | some c => if isHex c then return c :: (← hexDigits false count) else fail .hexDigit (← charSpan)
    | none => failHere .escapeCut

/-- Hexadecimal digits up to a closing brace. -/
def hexUpToBrace (brace : Place) : (fuel : Nat) → Grammar (List Char)
  | 0 => failHere .escapeCut
  | fuel + 1 => do
    let more ← bumpAndBlanks
    match ← peek with
    | some c =>
      if !more || c = '}' then return []
      else if isHex c then return c :: (← hexUpToBrace brace fuel)
      else fail .hexDigit (← charSpan)
    | none => fail .escapeCut (← spanFrom brace)

/-- A character by its code point, the letter after the backslash being ahead. -/
def hexEscape (fuel : Nat) (start : Place) (letter : Char) : Grammar Primitive := do
  if !(← bumpAndBlanks) then failHere .escapeCut
  else if (← peek) = some '{' then
    let brace ← here
    let first := (← charSpan).stop
    let digits ← hexUpToBrace brace fuel
    let stop ← here
    let _ ← bumpAndBlanks
    if digits.isEmpty then fail .hexAbsent (← spanFrom brace)
    else
      match char? (numberOf 16 digits) with
      | some c => return .literal (← spanFrom start) c false
      | none => fail .hexNoCharacter ⟨first, stop⟩
  else
    let first ← here
    let digits ← hexDigits true (if letter = 'x' then 2 else if letter = 'u' then 4 else 8)
    let _ ← bumpAndBlanks
    let stop ← here
    match char? (numberOf 16 digits) with
    | some c => return .literal (← spanFrom start) c (letter = 'x')
    | none => fail .hexNoCharacter ⟨first, stop⟩

/-- The characters up to a closing brace. -/
def nameUpToBrace : (fuel : Nat) → Grammar (List Char)
  | 0 => failHere .escapeCut
  | fuel + 1 => do
    let more ← bumpAndBlanks
    match ← peek with
    | some c => if !more || c = '}' then return [] else return c :: (← nameUpToBrace fuel)
    | none => failHere .escapeCut

/-- What is before and after the first occurrence of some characters. -/
def cutAt (mark : List Char) : List Char → Option (List Char × List Char)
  | [] => none
  | c :: rest =>
    if mark.isPrefixOf (c :: rest) then some ([], (c :: rest).drop mark.length)
    else (cutAt mark rest).map fun (before, after) => (c :: before, after)

/-- The name of a property, with the value if there is one. -/
def propertyName (name : List Char) : PropertyName :=
  let pair := fun (equal : Bool) (parts : List Char × List Char) =>
    PropertyName.valued (String.ofList parts.1) (String.ofList parts.2) equal
  (((cutAt ['!', '='] name).map (pair false) <|> (cutAt [':'] name).map (pair true)
    <|> (cutAt ['='] name).map (pair true))).getD (.alone (String.ofList name))

/-- A class by property, the letter after the backslash being ahead. -/
def propertyClass (fuel : Nat) (start : Place) (negated : Bool) : Grammar Primitive := do
  if !(← bumpAndBlanks) then failHere .escapeCut
  else
    match ← peek with
    | some '{' =>
      let name ← nameUpToBrace fuel
      let _ ← bump
      return .property (← spanFrom start) negated (propertyName name)
    | some '\\' => fail .propertyLetter (← charSpan)
    | some c =>
      let _ ← bumpAndBlanks
      return .property (← spanFrom start) negated (.alone c.toString)
    | none => failHere .escapeCut

/-- A word boundary of a special kind in braces, if there is one and not a repetition. -/
def specialBoundary? (fuel : Nat) (start : Place) : Grammar (Option Assertion) := do
  let isNamePart := fun (c : Char) => ('A' ≤ c && c ≤ 'Z') || ('a' ≤ c && c ≤ 'z') || c = '-'
  let brace ← get
  if !(← bumpAndBlanks) then fail .boundaryCut (← spanFrom start)
  else
    let contents ← here
    if !(← peek).any isNamePart then
      set brace
      return none
    else
      let name ← takeSpaced isNamePart fuel
      if (← peek) ≠ some '}' then fail .boundaryOpen (← spanFrom brace.place)
      else
        let stop ← here
        let _ ← bump
        match String.ofList name with
        | "start" => return some .wordStart
        | "end" => return some .wordStop
        | "start-half" => return some .wordStartHalf
        | "end-half" => return some .wordStopHalf
        | _ => fail .boundaryUnknown ⟨contents, stop⟩

/-- A character that may follow a backslash and then stands for itself. -/
def isEscapable (c : Char) : Bool :=
  c.toNat < 0x80 && !c.isAlphanum && c ≠ '<' && c ≠ '>'

/-- An escape. -/
def escape (fuel : Nat) : Grammar Primitive := do
  let start ← here
  if !(← bump) then fail .escapeCut (← spanFrom start)
  else
    let c := (← peek).getD '\\'
    let letter := fun (negated : Bool) (letter : LetterClass) => do
      let _ ← bump
      return Primitive.letter (← spanFrom start) negated letter
    let special := fun (c : Char) => do return Primitive.literal (← spanFrom start) c false
    let assertion := fun (a : Assertion) => do return Primitive.assertion (← spanFrom start) a
    match c with
    | '0' | '1' | '2' | '3' | '4' | '5' | '6' | '7' | '8' | '9' =>
      fail .backReference ⟨start, (← charSpan).stop⟩
    | 'x' | 'u' | 'U' => hexEscape fuel start c
    | 'p' => propertyClass fuel start false
    | 'P' => propertyClass fuel start true
    | 'd' => letter false .digit
    | 's' => letter false .space
    | 'w' => letter false .word
    | 'D' => letter true .digit
    | 'S' => letter true .space
    | 'W' => letter true .word
    | _ =>
      let _ ← bump
      if isEscapable c then special c
      else
        match c with
        | 'a' => special '\x07'
        | 'f' => special '\x0c'
        | 't' => special '\t'
        | 'n' => special '\n'
        | 'r' => special '\r'
        | 'v' => special '\x0b'
        | 'A' => assertion .textStart
        | 'z' => assertion .textStop
        | 'b' =>
          if (← peek) = some '{' then
            match ← specialBoundary? fuel start with
            | some a => assertion a
            | none => assertion .wordBoundary
          else assertion .wordBoundary
        | '<' => assertion .wordStart
        | '>' => assertion .wordStop
        | 'B' => assertion .notWordBoundary
        | _ => fail .escapeUnknown (← spanFrom start)

/-- A part of a pattern outside brackets that has no parts itself. -/
def primitive (fuel : Nat) : Grammar Tree := do
  let span ← charSpan
  match ← peek with
  | some '\\' =>
    match ← escape fuel with
    | .literal span c byte => return .literal span c byte
    | .assertion span a => return .assertion span a
    | .dot span => return .dot span
    | .letter span negated l => return .letter span negated l
    | .property span negated name => return .property span negated name
  | some c =>
    let _ ← bump
    match c with
    | '.' => return .dot span
    | '^' => return .assertion span .lineStart
    | '$' => return .assertion span .lineStop
    | _ => return .literal span c false
  | none => return .empty span

/-! ### Brackets -/

/-- A part of a bracket: a character, or a class by letter or property. -/
def setPrimitive (fuel : Nat) : Grammar Primitive := do
  match ← peek with
  | some '\\' => escape fuel
  | c =>
    let span ← charSpan
    let _ ← bump
    return .literal span (c.getD ' ') false

/-- A primitive as a member of a bracket. -/
def setItem : Primitive → Grammar SetTree
  | .literal _ c _ => return .range c c
  | .letter span negated l => return .letter span negated l
  | .property span negated name => return .property span negated name
  | .assertion span _ | .dot span => fail .classEscape span

/-- A primitive as an end of a range. -/
def rangeBound : Primitive → Grammar (Span × Char)
  | .literal span c _ => return (span, c)
  | .letter span .. | .property span .. | .assertion span _ | .dot span => fail .classRangeBound span

/-- The span of a primitive. -/
def Primitive.span : Primitive → Span
  | .literal span .. | .letter span .. | .property span .. | .assertion span _ | .dot span => span

/-- A member of a bracket or a range of them. -/
def setRange (fuel : Nat) (openSpan : Span) : Grammar SetTree := do
  let first ← setPrimitive fuel
  bumpBlanks
  match ← peek with
  | none => fail .classOpen openSpan
  | some c =>
    let behind ← peekBehindBlanks
    if c ≠ '-' || behind = some ']' || behind = some '-' then setItem first
    else if !(← bumpAndBlanks) then fail .classOpen openSpan
    else
      let last ← setPrimitive fuel
      let span : Span := ⟨first.span.start, last.span.stop⟩
      let (_, a) ← rangeBound first
      let (_, b) ← rangeBound last
      if a ≤ b then return .range a b else fail .classRangeOrder span

/-- A named class of ASCII in a bracket, if one is ahead. -/
def asciiClass? : Grammar (Option SetTree) := do
  let cursor ← get
  let inner := cursor.rest.drop 2
  let negated := inner.head? = some '^'
  let inner := if negated then inner.tail else inner
  let name := inner.takeWhile (· ≠ ':')
  let text := "[:" ++ (if negated then "^" else "") ++ String.ofList name ++ ":]"
  if text.toList.isPrefixOf cursor.rest && (Property.asciiClass? (String.ofList name)).isSome then
    let _ ← bumpIf text
    return some (.ascii negated (String.ofList name))
  else return none

/-- Literal hyphens at the front of a bracket. -/
def leadingHyphens (start : Place) : (fuel : Nat) → Grammar (List SetTree)
  | 0 => return []
  | fuel + 1 => do
    if (← peek) = some '-' then
      if !(← bumpAndBlanks) then fail .classOpen ⟨start, start⟩
      else return .range '-' '-' :: (← leadingHyphens start fuel)
    else return []

/-- The members of a bracket as one tree. -/
def setUnion (start : Place) (items : List SetTree) : Grammar SetTree := do
  match items with
  | [] => return .empty
  | [item] => return item
  | items => return .union (← spanFrom start) items

/-- The operation that is ahead in a bracket. -/
def setOperation? : Grammar (Option SetOperation) := do
  if ← bumpIf "&&" then return some .intersection
  else if ← bumpIf "--" then return some .difference
  else if ← bumpIf "~~" then return some .symmetricDifference
  else return none

/-- Joins what stood before an operation in a bracket with what comes after it. -/
def joinSets (left : Option (SetOperation × Place × SetTree)) (right : SetTree) : Grammar SetTree := do
  match left with
  | none => return right
  | some (operation, start, left) => return .operation (← spanFrom start) operation left right

mutual

/-- A bracket. -/
def bracket (fuel : Nat) : Grammar (Span × Bool × SetTree) := do
  match fuel with
  | 0 => failHere .classOpen
  | fuel + 1 =>
    let start ← here
    let cut : Grammar Unit := do fail .classOpen (← spanFrom start)
    bumpAndBlanksIf true cut
    let negated := (← peek) = some '^'
    bumpAndBlanksIf negated cut
    let contents ← here
    let hyphens ← leadingHyphens start fuel
    let closing := hyphens.isEmpty && (← peek) = some ']'
    bumpAndBlanksIf closing cut
    let openSpan ← spanFrom start
    let items := if closing then [.range ']' ']'] else hyphens
    let inner ← bracketRest fuel openSpan contents none items.reverse
    return (← spanFrom start, negated, inner)

/-- The rest of a bracket, given the members since the last operation, latest first. -/
def bracketRest (fuel : Nat) (openSpan : Span) (start : Place) (left : Option (SetOperation × Place × SetTree))
    (items : List SetTree) : Grammar SetTree := do
  match fuel with
  | 0 => fail .classOpen openSpan
  | fuel + 1 =>
    bumpBlanks
    match ← peek with
    | none => fail .classOpen openSpan
    | some '[' =>
      match ← asciiClass? with
      | some item => bracketRest fuel openSpan start left (item :: items)
      | none =>
        let (span, negated, inner) ← bracket fuel
        bracketRest fuel openSpan start left (.bracket span negated inner :: items)
    | some ']' =>
      let set ← joinSets left (← setUnion start items.reverse)
      let _ ← bump
      return set
    | some _ =>
      match ← setOperation? with
      | some operation =>
        let set ← joinSets left (← setUnion start items.reverse)
        bracketRest fuel openSpan (← here) (some (operation, start, set)) []
      | none => bracketRest fuel openSpan start left ((← setRange fuel openSpan) :: items)

end

/-! ### Groups and repetitions -/

/-- A switch by its letter. -/
def flag : Grammar Flag := do
  match ← peek with
  | some 'i' => return .ignoreCase
  | some 'm' => return .multiLine
  | some 's' => return .dotMatchesAll
  | some 'U' => return .swapGreed
  | some 'u' => return .unicode
  | some 'R' => return .carriageReturns
  | some 'x' => return .ignoreBlanks
  | _ => fail .flagUnknown (← charSpan)

/-- Switches up to a colon or a closing parenthesis. A switch and the hyphen that negates those after it may be
given once. -/
def flags (given : List (Option Flag × Span)) (items : FlagItems) : (fuel : Nat) → Grammar FlagItems
  | 0 => failHere .flagCut
  | fuel + 1 => do
    let c ← peek
    if c = some ':' || c = some ')' then
      match given with
      | (none, span) :: _ => fail .flagNegationLast span
      | _ => return items.reverse
    else
      let span ← charSpan
      let item : Option Flag ← if c = some '-' then pure none else some <$> flag
      match given.find? (·.1 = item) with
      | some (_, earlier) =>
        throw ⟨if item.isNone then .flagNegationTwice else .flagTwice, span, some earlier⟩
      | none =>
        let negated := given.any (·.1.isNone)
        let items := match item with
          | some f => (f, !negated) :: items
          | none => items
        if !(← bump) then failHere .flagCut else flags ((item, span) :: given) items fuel

/-- The name of a group up to its closing angle bracket. -/
def groupName (first : Bool) : (fuel : Nat) → Grammar (List Char)
  | 0 => failHere .groupNameOpen
  | fuel + 1 => do
    match ← peek with
    | none => failHere .groupNameOpen
    | some '>' => return []
    | some c =>
      let allowed :=
        if first then c = '_' || Property.alphabetic.contains c
        else c = '_' || c = '.' || c = '[' || c = ']' || Property.alphanumeric.contains c
      if !allowed then fail .groupNameCharacter (← charSpan)
      else
        let _ ← bump
        return c :: (← groupName false fuel)

/-- Takes note of a group by name. -/
def namedGroup (fuel : Nat) : Grammar Unit := do
  let start ← here
  let name ← groupName true fuel
  let span ← spanFrom start
  let _ ← bump
  if name.isEmpty then fail .groupNameEmpty ⟨start, start⟩
  else
    let name := String.ofList name
    match (← get).names.find? (·.1 = name) with
    | some (_, earlier) => throw ⟨.groupNameTwice, span, some earlier⟩
    | none => modify fun cursor => { cursor with names := (name, span) :: cursor.names }

/-- Whether a look-around is ahead. It is passed over. -/
def lookAround : Grammar Bool := do
  if ← bumpIf "?=" then return true
  else if ← bumpIf "?!" then return true
  else if ← bumpIf "?<=" then return true
  else bumpIf "?<!"

/-- The part that a repetition applies to, and those before it. -/
def repeatable (parts : List Tree) : Grammar (Tree × List Tree) := do
  match parts with
  | [] | .empty _ :: _ | .flags _ _ :: _ => failHere .repetitionOfNothing
  | part :: before => return (part, before)

/-- Whether a repetition is as long as possible: unless a question mark follows it. -/
def greedy : Grammar Bool := do
  if (← peek) = some '?' then
    let _ ← bump
    return false
  else return true

/-- A repetition by symbol, the parts before it being given latest first. -/
def symbolRepetition (least : Nat) (most : Option Nat) (parts : List Tree) : Grammar (List Tree) := do
  let (part, before) ← repeatable parts
  let _ ← bump
  let greedy ← greedy
  return .repetition ⟨part.span.start, ← here⟩ least most greedy part :: before

/-- A repetition by count, the parts before it being given latest first. -/
def countedRepetition (fuel : Nat) (parts : List Tree) : Grammar (List Tree) := do
  let start ← here
  let (part, before) ← repeatable parts
  if !(← bumpAndBlanks) then fail .countOpen (← spanFrom start)
  else
    let first ← (fun cursor =>
      match countDecimal fuel cursor with
      | .ok (n, cursor) => .ok (.ok n, cursor)
      | .error fault => .ok (.error fault, (takeSpaced (fun c => c.isDigit || Text.isBlank c) fuel cursor).toOption.elim
          cursor (·.2)) : Grammar (Except Fault Nat))
    match ← peek with
    | none => fail .countOpen (← spanFrom start)
    | some ',' =>
      if !(← bumpAndBlanks) then fail .countOpen (← spanFrom start)
      else if (← peek) ≠ some '}' then
        let least ← liftExcept first
        let most ← countDecimal fuel
        close start part before least (some most)
      else close start part before (← liftExcept first) none
    | some _ =>
      let n ← liftExcept first
      close start part before n (some n)
where
  /-- Fails if the number could not be read. -/
  liftExcept (n : Except Fault Nat) : Grammar Nat :=
    match n with
    | .ok n => return n
    | .error fault => throw fault
  /-- Reads the closing brace. -/
  close (start : Place) (part : Tree) (before : List Tree) (least : Nat) (most : Option Nat) : Grammar (List Tree) := do
    if (← peek) ≠ some '}' then fail .countOpen (← spanFrom start)
    else
      let _ ← bumpAndBlanks
      let greedy ← greedy
      if most.any (· < least) then fail .countOrder (← spanFrom start)
      else return .repetition ⟨part.span.start, ← here⟩ least most greedy part :: before

mutual

/-- A group, or switches for what follows. -/
def group (fuel : Nat) : Grammar Tree := do
  match fuel with
  | 0 => failHere .groupOpen
  | fuel + 1 =>
    let openSpan ← charSpan
    let _ ← bump
    bumpBlanks
    if ← lookAround then fail .lookAround (← spanFrom openSpan.start)
    else
      let inner ← here
      if ← (do if ← bumpIf "?P<" then return true else bumpIf "?<") then
        namedGroup fuel
        groupRest fuel openSpan []
      else if ← bumpIf "?" then
        if (← peek).isNone then fail .groupOpen openSpan
        else
          let items ← flags [] [] fuel
          let last ← peek
          let _ ← bump
          if last = some ')' then
            if items.isEmpty then fail .repetitionOfNothing ⟨inner, inner⟩
            else
              match items.state? .ignoreBlanks with
              | some ignoreBlanks => modify fun cursor => { cursor with ignoreBlanks }
              | none => pure ()
              return .flags (← spanFrom openSpan.start) items
          else groupRest fuel openSpan items
      else groupRest fuel openSpan []

/-- What is inside a group, and its closing parenthesis. -/
def groupRest (fuel : Nat) (openSpan : Span) (items : FlagItems) : Grammar Tree := do
  match fuel with
  | 0 => failHere .groupOpen
  | fuel + 1 =>
    let outside := (← get).ignoreBlanks
    modify fun cursor => { cursor with ignoreBlanks := (items.state? .ignoreBlanks).getD outside }
    let tree ← alternation fuel
    if (← peek).isNone then fail .groupOpen openSpan
    else
      modify fun cursor => { cursor with ignoreBlanks := outside }
      let _ ← bump
      return .group (← spanFrom openSpan.start) items tree

/-- Choices up to the end of the group that they are in. -/
def alternation (fuel : Nat) : Grammar Tree := do
  match fuel with
  | 0 => failHere .groupOpen
  | fuel + 1 =>
    let start ← here
    let first ← sequence fuel start []
    if (← peek) = some '|' then
      let rest ← choices fuel
      return .alternation (← spanFrom start) (first :: rest)
    else return first

/-- Further choices, the bar before them being ahead. -/
def choices (fuel : Nat) : Grammar (List Tree) := do
  match fuel with
  | 0 => failHere .groupOpen
  | fuel + 1 =>
    if (← peek) = some '|' then
      let _ ← bump
      let choice ← sequence fuel (← here) []
      return choice :: (← choices fuel)
    else return []

/-- Parts in a row, those read so far being given latest first. -/
def sequence (fuel : Nat) (start : Place) (parts : List Tree) : Grammar Tree := do
  match fuel with
  | 0 => failHere .groupOpen
  | fuel + 1 =>
    bumpBlanks
    match ← peek with
    | none | some ')' | some '|' => return .ofParts (← spanFrom start) parts.reverse
    | some '(' => sequence fuel start ((← group fuel) :: parts)
    | some '[' =>
      let (span, negated, inner) ← bracket fuel
      sequence fuel start (.bracket span negated inner :: parts)
    | some '?' => sequence fuel start (← symbolRepetition 0 (some 1) parts)
    | some '*' => sequence fuel start (← symbolRepetition 0 none parts)
    | some '+' => sequence fuel start (← symbolRepetition 1 none parts)
    | some '{' => sequence fuel start (← countedRepetition fuel parts)
    | some _ => sequence fuel start ((← primitive fuel) :: parts)

end

/-- A whole pattern. -/
def pattern (fuel : Nat) : Grammar Tree := do
  let tree ← alternation fuel
  if (← peek).isSome then fail .groupNotOpened (← charSpan)
  else return tree

end Grammar

/-- Reads a pattern. -/
def Tree.ofText (text : String) : Except Fault Tree := do
  let (tree, _) ← (Grammar.pattern (4 * text.length + 8)).run { rest := text.toList }
  tree.checkDepth depthLimit
  return tree

end SchemaSdl.Pattern.Plain
