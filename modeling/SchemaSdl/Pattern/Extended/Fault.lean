/-! What can be wrong with an extended pattern, and when a search with it is given up. -/

namespace SchemaSdl.Pattern.Extended

/-- What is wrong with the text of a pattern. -/
inductive Cause where
  | leftOver
  | parenthesisExpected
  | conditionUseless
  | parenthesisOpen
  | tooDeep
  | backslashLast
  | escapeUnknown (escape : String)
  | propertyOpen
  | hexBroken
  | noCharacter
  | classBroken
  | flagUnknown (flags : String)
  | unicodeNeeded
  | backReferenceBroken
  | repetitionOfNothing
  | groupNameBroken
  | groupNameUnknown (name : String)

/-- The wording of a cause. -/
def Cause.message : Cause → String
  | .leftOver => "General parsing error: end of string not reached"
  | .parenthesisExpected => "General parsing error: expected close paren"
  | .conditionUseless =>
    "General parsing error: expected conditional to be a backreference or at least an expression for when the "
      ++ "condition is true"
  | .parenthesisOpen => "Opening parenthesis without closing parenthesis"
  | .tooDeep => "Pattern too deeply nested"
  | .backslashLast => "Backslash without following character"
  | .escapeUnknown escape => "Invalid escape: " ++ escape
  | .propertyOpen => "Unicode escape not closed"
  | .hexBroken => "Invalid hex escape"
  | .noCharacter => "Invalid codepoint for hex or unicode escape"
  | .classBroken => "Invalid character class"
  | .flagUnknown flags => "Unknown group flag: " ++ flags
  | .unicodeNeeded => "Disabling Unicode not supported"
  | .backReferenceBroken => "Invalid back reference"
  | .repetitionOfNothing => "Target of repeat operator is invalid"
  | .groupNameBroken => "Could not parse group name"
  | .groupNameUnknown name => "Invalid group name in back reference: " ++ name

/-- Why a pattern cannot be used. -/
inductive Fault where
  /-- Its text is wrong at a byte. -/
  | reading (place : Nat) (cause : Cause)
  /-- A reference by number to a group that has not been opened. -/
  | noSuchGroup
  /-- References by number beside groups with names. -/
  | numberedBesideNamed
  /-- A look-behind whose length is not fixed. -/
  | lookBehindLength
  /-- A part without look-around that is no plain pattern. -/
  | partRefused
  /-- A part without look-around that is too large. -/
  | partTooLarge
  /-- A search that went back too often. -/
  | tooManyRetreats
  /-- A search that kept too many ways back. -/
  | tooManyBranches

/-- The wording of a fault. -/
def Fault.message : Fault → String
  | .reading place cause => "Parsing error at position " ++ toString place ++ ": " ++ cause.message
  | .noSuchGroup => "Error compiling regex: Invalid back reference"
  | .numberedBesideNamed =>
    "Error compiling regex: Numbered backref/call not allowed because named group was used, use a named backref instead"
  | .lookBehindLength => "Error compiling regex: Look-behind assertion without constant size"
  | .partRefused => "Error compiling regex: Regex error: error parsing pattern 0"
  | .partTooLarge => "Error compiling regex: Regex error: error building NFA"
  | .tooManyRetreats => "Error executing regex: Max limit for backtracking count exceeded"
  | .tooManyBranches => "Error executing regex: Max stack size exceeded for backtracking while executing regex"

end SchemaSdl.Pattern.Extended
