import SchemaSdl.Pattern.Plain.Syntax
import SchemaSdl.Pattern.Regular

/-! What plain patterns mean. Switches act from where they stand to the end of the group that they stand in. -/

namespace SchemaSdl.Pattern.Plain

/-- The switches in force. -/
structure Mode where
  ignoreCase : Bool := false
  multiLine : Bool := false
  dotMatchesAll : Bool := false
  swapGreed : Bool := false
  unicode : Bool := true
  carriageReturns : Bool := false

namespace Mode

/-- Turns switches on and off. -/
def apply (mode : Mode) (items : FlagItems) : Mode :=
  items.foldl (fun mode (flag, on) =>
    match flag with
    | .ignoreCase => { mode with ignoreCase := on }
    | .multiLine => { mode with multiLine := on }
    | .dotMatchesAll => { mode with dotMatchesAll := on }
    | .swapGreed => { mode with swapGreed := on }
    | .unicode => { mode with unicode := on }
    | .carriageReturns => { mode with carriageReturns := on }
    | .ignoreBlanks => mode) mode

/-- A set with all that differs from its members in case only, where case does not count. -/
def fold (mode : Mode) (set : CharSet) : CharSet :=
  if !mode.ignoreCase then set else if mode.unicode then set.folded else set.foldedAscii

/-- A set or what is not in it. Without Unicode a set must stay within ASCII. -/
def negate (mode : Mode) (negated : Bool) (span : Span) (set : CharSet) : Except Fault CharSet :=
  let set := if negated then set.complement else set
  if !mode.unicode && !set.isAscii then .error ⟨.bytesInvalid, span, none⟩ else .ok set

end Mode

/-- The characters of a class by letter. -/
def LetterClass.set (letter : LetterClass) (unicode : Bool) : CharSet :=
  match letter, unicode with
  | .digit, true => Property.digit
  | .space, true => Property.space
  | .word, true => Property.word
  | .digit, false => Property.asciiDigit
  | .space, false => Property.asciiSpace
  | .word, false => Property.asciiWord

/-- The characters of a class by property. -/
def PropertyName.set (mode : Mode) (span : Span) (negated : Bool) (name : PropertyName) : Except Fault CharSet := do
  if !mode.unicode then throw ⟨.propertyRefused, span, none⟩
  let (found, negated) := match name with
    | .alone name => (Property.named name, negated)
    | .valued name value equal => (Property.valued name value, negated != !equal)
  match found with
  | .ok set => mode.negate negated span (mode.fold set)
  | .error .unknownProperty => throw ⟨.propertyUnknown, span, none⟩
  | .error .unknownValue => throw ⟨.propertyValueUnknown, span, none⟩

namespace SetTree

/-- Joins two sets by an operation. -/
def apply : SetOperation → CharSet → CharSet → CharSet
  | .intersection => CharSet.inter
  | .difference => CharSet.diff
  | .symmetricDifference => CharSet.symmDiff

mutual

/-- The characters of what stands inside a bracket. -/
def set (mode : Mode) : SetTree → Except Fault CharSet
  | .empty => return .empty
  | .range first last => return .ofRanges [(first.toNat, last.toNat)]
  | .ascii negated name =>
    mode.negate negated ⟨{}, {}⟩ ((Property.asciiClass? name).getD .empty)
  | .letter span negated kind => mode.negate negated span (kind.set mode.unicode)
  | .property span negated name => name.set mode span negated
  | .bracket span negated inner => do mode.negate negated span (mode.fold (← inner.set mode))
  | .union _ items => sets mode items
  | .operation _ kind left right => do
    return apply kind (mode.fold (← left.set mode)) (mode.fold (← right.set mode))

/-- The characters of any of some members. -/
def sets (mode : Mode) : List SetTree → Except Fault CharSet
  | [] => return .empty
  | item :: rest => do return (← item.set mode).union (← sets mode rest)

end
end SetTree

namespace Tree

/-- A condition on a place under the switches in force. -/
def look (mode : Mode) : Assertion → Look
  | .lineStart => if !mode.multiLine then .start else if mode.carriageReturns then .crLineStart else .lineStart
  | .lineStop => if !mode.multiLine then .stop else if mode.carriageReturns then .crLineStop else .lineStop
  | .textStart => .start
  | .textStop => .stop
  | .wordBoundary => .wordBoundary !mode.unicode
  | .notWordBoundary => .notWordBoundary !mode.unicode
  | .wordStart => .wordStart !mode.unicode
  | .wordStop => .wordStop !mode.unicode
  | .wordStartHalf => .wordStartHalf !mode.unicode
  | .wordStopHalf => .wordStopHalf !mode.unicode

/-- The characters that a dot stands for. -/
def dotSet (mode : Mode) : CharSet :=
  if mode.dotMatchesAll then .all
  else if mode.carriageReturns then (CharSet.ofCodes [10, 13]).complement
  else (CharSet.ofCodes [10]).complement

mutual

/-- What a pattern means, and the switches in force behind it. -/
def meaning (mode : Mode) : Tree → Except Fault (Regular × Mode)
  | .empty _ => return (.empty, mode)
  | .flags _ items => return (.empty, mode.apply items)
  | .literal span c byte =>
    if !mode.unicode && byte && 0x7F < c.toNat then throw ⟨.bytesInvalid, span, none⟩
    else return (.chars (mode.fold (.ofCodes [c.toNat])), mode)
  | .dot span =>
    if !mode.unicode then throw ⟨.bytesInvalid, span, none⟩ else return (.chars (dotSet mode), mode)
  | .assertion _ a => return (.look (look mode a), mode)
  | .letter span negated kind => do
    return (.chars (← mode.negate negated span (kind.set mode.unicode)), mode)
  | .property span negated name => do return (.chars (← name.set mode span negated), mode)
  | .bracket span negated inner => do
    return (.chars (← mode.negate negated span (mode.fold (← inner.set mode))), mode)
  | .repetition _ least most greedy inner => do
    let (regular, after) ← inner.meaning mode
    return (.repeated least most (greedy != mode.swapGreed) regular, after)
  | .group _ items inner => do
    let (regular, _) ← inner.meaning (mode.apply items)
    return (regular, mode)
  | .alternation _ choices => do
    let (choices, mode) ← meanings mode choices
    return (.alternation choices, mode)
  | .concat _ parts => do
    let (parts, mode) ← meanings mode parts
    return (.concat parts, mode)

/-- What patterns mean that are read one after another. -/
def meanings (mode : Mode) : List Tree → Except Fault (List Regular × Mode)
  | [] => return ([], mode)
  | tree :: rest => do
    let (first, mode) ← tree.meaning mode
    let (others, mode) ← meanings mode rest
    return (first :: others, mode)

end

end Tree
end SchemaSdl.Pattern.Plain
