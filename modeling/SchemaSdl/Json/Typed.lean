import SchemaSdl.Json.Skipped
import SchemaSdl.Members

/-! Readers for values of an expected kind. A reader for the values inside a list or an object is absent where
the nesting limit leaves no room for it. -/

namespace SchemaSdl.Json.Reader
variable {α β σ : Type}

/-- The value is of another kind. Numbers, texts and words are read before this is reported. -/
def wrongKind (expected : String) : Reader α := do
  let reject (found : Found) : Reader α := fail (.wrongKind found expected)
  match ← peekToken with
  | none => failAtNext .endInValue
  | some 0x6E => do skipByte; wordRest [0x75, 0x6C, 0x6C]; reject .null
  | some 0x74 => do skipByte; wordRest [0x72, 0x75, 0x65]; reject (.boolean true)
  | some 0x66 => do skipByte; wordRest [0x61, 0x6C, 0x73, 0x65]; reject (.boolean false)
  | some 0x22 => do skipByte; reject (.text (← literal))
  | some 0x2D => do skipByte; reject (.number (← number false))
  | some 0x5B => reject .list
  | some 0x7B => reject .object
  | some b => if isDigit b then do reject (.number (← number true)) else failAtNext .valueMissing

/-- A text. -/
def text : Reader String := do
  match ← peekToken with
  | some 0x22 => do skipByte; literal
  | _ => wrongKind "a string"

/-- A value or null. -/
def optional (inner : Reader α) : Reader (Option α) := do
  match ← peekToken with
  | some 0x6E => do skipByte; wordRest [0x75, 0x6C, 0x6C]; pure none
  | _ => do return some (← inner)

/-! ### Parts of lists and objects -/

/-- Where a list or an object stands between two of its parts: it ends here, or something has been passed on the
way to the next part, which is `part` or about it. -/
inductive Onward (input : List UInt8) (part : Type) where
  | finished (rest : List UInt8) (le : rest.length ≤ input.length)
  | more (part : part) (rest : List UInt8) (lt : rest.length < input.length)

/-- What follows a value in a list. -/
def nextItem (input : List UInt8) : Except Failure (Onward input Unit) :=
  match h : input.dropWhile isBlank with
  | [] => .error ⟨[], .endInList, 0⟩
  | b :: rest =>
    if b = 0x5D then .ok (.finished rest (Nat.le_of_lt (length_of_dropWhile_eq_cons h)))
    else if b = 0x2C then
      match rest.dropWhile isBlank with
      | [] => .error ⟨[], .endInValue, 0⟩
      | c :: after =>
        if c = 0x5D then .error ⟨[], .commaTrailing, after.length⟩
        else .ok (.more () rest (length_of_dropWhile_eq_cons h))
    else .error ⟨[], .listCommaMissing, rest.length⟩

/-- Whether a list has a first value. The end of an empty list is passed over. -/
def firstItem : Reader Bool := do
  match ← peekToken with
  | some 0x5D => do skipByte; pure false
  | some _ => pure true
  | none => failAtNext .endInList

/-- The name of a member, its opening quote being ahead after blanks. -/
def memberName (input : List UInt8) : Except Failure (Onward input String) :=
  match h : input.dropWhile isBlank with
  | [] => .error ⟨[.unknown], .endInValue, 0⟩
  | b :: rest =>
    if b = 0x22 then
      match within .unknown literal rest with
      | .error failure => .error failure
      | .ok taken => .ok (.more taken.value taken.rest
          (Nat.lt_of_le_of_lt taken.length_le (length_of_dropWhile_eq_cons h)))
    else if b = 0x7D then .error ⟨[.unknown], .commaTrailing, rest.length⟩
    else .error ⟨[.unknown], .keyNotText, rest.length⟩

/-- What follows a member of an object, or its opening brace. -/
def nextMember (first : Bool) (input : List UInt8) : Except Failure (Onward input String) :=
  match h : input.dropWhile isBlank with
  | [] => .error ⟨[.unknown], .endInObject, 0⟩
  | b :: rest =>
    have lt := length_of_dropWhile_eq_cons h
    if b = 0x7D then .ok (.finished rest (Nat.le_of_lt lt))
    else if first then
      if b = 0x22 then memberName input else .error ⟨[.unknown], .keyNotText, rest.length⟩
    else if b = 0x2C then
      match memberName rest with
      | .error failure => .error failure
      | .ok (.finished rest' le) => .ok (.finished rest' (by omega))
      | .ok (.more name rest' lt') => .ok (.more name rest' (by omega))
    else .error ⟨[.unknown], .objectCommaMissing, rest.length⟩

/-- The colon between the name and the value of a member. -/
def colon : Reader Unit := do
  match ← peekToken with
  | some 0x3A => skipByte
  | some _ => failAtNext .colonMissing
  | none => failAtNext .endInObject

/-- The values of a list after the first. They are kept latest first. -/
def itemsFrom {origin : List UInt8} (item : Reader α) (items : List α) (input : List UInt8)
    (le : input.length ≤ origin.length) : Except Failure (Taken origin (List α)) :=
  match nextItem input with
  | .error failure => .error failure
  | .ok (.finished rest le') => .ok ⟨items.reverse, rest, by omega⟩
  | .ok (.more () rest lt) =>
    match within (.index items.length) item rest with
    | .error failure => .error failure
    | .ok taken => itemsFrom item (taken.value :: items) taken.rest (by have h := taken.length_le; omega)
termination_by input.length
decreasing_by have h := taken.length_le; omega

/-- A list of values of one kind. -/
def listOf (item : Option (Reader α)) : Reader (List α) := do
  match ← peekToken with
  | some 0x5B =>
    match item with
    | none => failAtNext .tooDeep
    | some item =>
      skipByte
      if ← firstItem then
        let first ← within (.index 0) item
        afresh fun input => itemsFrom item [first] input
      else pure []
  | _ => wrongKind "a sequence"

/-- The members of an object from a place between two of them. A member is taken up into what has been read so far
by its name, which may be refused before the colon after it is read. -/
def membersFrom {origin : List UInt8} (member : σ → String → Except Cause (Reader σ)) (state : σ) (first : Bool)
    (input : List UInt8) (le : input.length ≤ origin.length) : Except Failure (Taken origin σ) :=
  match nextMember first input with
  | .error failure => .error failure
  | .ok (.finished rest le') => .ok ⟨state, rest, by omega⟩
  | .ok (.more name rest lt) =>
    match member state name with
    | .error cause => .error ⟨[], cause, (passEnd rest).length⟩
    | .ok value =>
      match andThen colon (fun _ => within (.key name) value) rest with
      | .error failure => .error failure
      | .ok taken => membersFrom member taken.value false taken.rest (by have h := taken.length_le; omega)
termination_by input.length
decreasing_by have h := taken.length_le; omega
where
  /-- A refused member is reported behind the blanks after its name, and behind the end of the object if that
  comes next. -/
  passEnd (input : List UInt8) : List UInt8 :=
    match input.dropWhile isBlank with
    | [] => []
    | b :: rest => if b = 0x7D then rest else b :: rest

/-- An object whose members are taken up one after another. -/
def object (member : Option (σ → String → Reader σ)) (state : σ) : Reader σ := do
  match ← peekToken with
  | some 0x7B =>
    match member with
    | none => failAtNext .tooDeep
    | some member =>
      skipByte
      afresh fun input => membersFrom (fun state name => .ok (member state name)) state true input
  | _ => wrongKind "a map"

/-! ### Records -/

/-- A member that a record knows, and how its value changes the record. -/
structure Slot (σ : Type) where
  name : String
  value : Reader (σ → σ)
  /-- Whether the record must have the member. -/
  needed : Bool := false

/-- A record as it is being read, with the names that have come up. -/
structure Draft (σ : Type) where
  record : σ
  seen : List String

/-- Takes up a member of a record. A name that comes up again is refused; the value of an unknown member is passed
over. -/
def Draft.member (slots : List (Slot σ)) (draft : Draft σ) (name : String) : Except Cause (Reader (Draft σ)) :=
  match slots.find? (·.name = name) with
  | none => .ok do skipValue; pure draft
  | some slot =>
    if name ∈ draft.seen then .error (.repeatedMember name)
    else .ok do
      let change ← slot.value
      pure ⟨change draft.record, name :: draft.seen⟩

/-- A record written as an object. -/
def recordMembers (slots : List (Slot σ)) (empty : σ) : Reader σ := do
  let draft ← afresh fun input => membersFrom (Draft.member slots) ⟨empty, []⟩ true input
  match slots.find? fun slot => slot.needed && !draft.seen.contains slot.name with
  | some slot => fail (.absentMember slot.name)
  | none => pure draft.record

/-- A record written as a list of the values of its members in order. Members at the end may be left out unless
they are needed. -/
def recordItems (expected : String) (record : σ) (n : Nat) : List (Slot σ) → Reader σ
  | [] => do
    match ← peekToken with
    | some 0x5D => do skipByte; pure record
    | some 0x2C =>
      skipByte
      match ← peekToken with
      | some 0x5D => failAtNext .commaTrailing
      | _ => failAtNext .textTrailing
    | some _ => failAtNext .textTrailing
    | none => failAtNext .endInList
  | slot :: slots => do
    if ← reachItem then
      let change ← within (.index n) slot.value
      recordItems expected (change record) (n + 1) slots
    else if slot.needed then do
      skipByte
      fail (.wrongLength n expected)
    else recordItems expected record (n + 1) slots
where
  /-- Whether there is a value at this place of the list. -/
  reachItem : Reader Bool := do
    match ← peekToken with
    | some 0x5D => pure false
    | some 0x2C =>
      if n = 0 then pure true
      else
        skipByte
        match ← peekToken with
        | some 0x5D => failAtNext .commaTrailing
        | some _ => pure true
        | none => failAtNext .endInValue
    | some _ => if n = 0 then pure true else failAtNext .listCommaMissing
    | none => failAtNext .endInList

/-- A record of a given name. -/
def record (name : String) (slots : Option (List (Slot σ))) (empty : σ) : Reader σ := do
  match ← peekToken with
  | some 0x7B =>
    match slots with
    | none => failAtNext .tooDeep
    | some slots => do skipByte; recordMembers slots empty
  | some 0x5B =>
    match slots with
    | none => failAtNext .tooDeep
    | some slots => do skipByte; recordItems (name ++ " with " ++ toString slots.length ++ " elements") empty 0 slots
  | _ => wrongKind name

end SchemaSdl.Json.Reader
