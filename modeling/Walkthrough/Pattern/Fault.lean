/-!
Why a text is no pattern.
-/
namespace Walkthrough.Pattern

inductive Fault where
  | unclosedGroup
  | unopenedGroup
  | unclosedClass
  | badClassRange
  | badClassItem
  | unknownEscape
  | unfinishedEscape
  | badHexEscape
  | backReference
  | lookAround
  | nothingToRepeat
  | unclosedCount
  | badCount
  | badGroupName
  | repeatedGroupName
  | badFlags
  | unknownProperty
  | notUnicode
  | badWordBoundary
  | tooDeep
  | tooLarge (limit : Nat)
deriving DecidableEq, Repr

namespace Fault

def reason : Fault → String
  | .unclosedGroup => "unclosed group"
  | .unopenedGroup => "unopened group"
  | .unclosedClass => "unclosed character class"
  | .badClassRange => "invalid character class range"
  | .badClassItem => "invalid item in character class"
  | .unknownEscape => "unrecognized escape sequence"
  | .unfinishedEscape => "incomplete escape sequence"
  | .badHexEscape => "invalid hexadecimal escape"
  | .backReference => "backreferences are not supported"
  | .lookAround => "look-around is not supported"
  | .nothingToRepeat => "repetition operator missing expression"
  | .unclosedCount => "unclosed counted repetition"
  | .badCount => "invalid repetition count"
  | .badGroupName => "invalid capture group name"
  | .repeatedGroupName => "duplicate capture group name"
  | .badFlags => "invalid flags"
  | .unknownProperty => "Unicode property not found"
  | .notUnicode => "pattern can match invalid UTF-8"
  | .badWordBoundary => "invalid special word boundary"
  | .tooDeep => "exceeded the maximum nesting"
  | .tooLarge limit => s!"Compiled regex exceeds size limit of {limit} bytes."

def message : Fault → String
  | .tooLarge limit => reason (.tooLarge limit)
  | fault => "regex parse error: " ++ fault.reason

end Fault

end Walkthrough.Pattern
