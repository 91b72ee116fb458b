import Walkthrough.Json.Printer
import Walkthrough.Text.Blank

/-!
Why a text cannot be read: it is no JSON (`TextFault`), or it is JSON of another shape than the one
asked for (`ShapeFault`). The first fault in the order of the text is the one reported.
-/
namespace Walkthrough.Json

inductive TextFault where
  | endInList
  | endInNumber
  | endInObject
  | endInString
  | endInValue
  | expectedColon
  | expectedListCommaOrEnd
  | expectedObjectCommaOrEnd
  | expectedIdent
  | expectedValue
  | badEscape
  | badHexEscape
  | badNumber
  | numberOutOfRange
  | controlCharacter
  | keyNotString
  | loneSurrogate
  | trailingComma
  | trailingCharacters
  | unfinishedHexEscape
  | tooDeep
deriving DecidableEq, Repr

namespace TextFault

/-- The fault where a list is passed over unread: a value is missed after the last comma. -/
def inPassedList : TextFault → TextFault
  | .trailingComma => .expectedValue
  | fault => fault

/-- The fault where an object is passed over unread: a name is missed after the last comma. -/
def inPassedObject : TextFault → TextFault
  | .trailingComma => .keyNotString
  | .endInValue => .endInObject
  | fault => fault

def isEnd : TextFault → Bool
  | .endInList | .endInNumber | .endInObject | .endInString | .endInValue => true
  | _ => false

def message : TextFault → String
  | .endInList => "EOF while parsing a list"
  | .endInNumber => "EOF while parsing a value"
  | .endInObject => "EOF while parsing an object"
  | .endInString => "EOF while parsing a string"
  | .endInValue => "EOF while parsing a value"
  | .expectedColon => "expected `:`"
  | .expectedListCommaOrEnd => "expected `,` or `]`"
  | .expectedObjectCommaOrEnd => "expected `,` or `\x7d`"
  | .expectedIdent => "expected ident"
  | .expectedValue => "expected value"
  | .badEscape | .badHexEscape => "invalid escape"
  | .badNumber => "invalid number"
  | .numberOutOfRange => "number out of range"
  | .controlCharacter => "control character (\\u0000-\\u001F) found while parsing a string"
  | .keyNotString => "key must be a string"
  | .loneSurrogate => "lone leading surrogate in hex escape"
  | .trailingComma => "trailing comma"
  | .trailingCharacters => "trailing characters"
  | .unfinishedHexEscape => "unexpected end of hex escape"
  | .tooDeep => "recursion limit exceeded"

end TextFault

inductive Found where
  | bool (b : Bool)
  | number (n : JsonNumber)
  | string (s : String)
  | null
  | sequence
  | map
deriving DecidableEq, Repr

def Found.description : Found → String
  | .bool true => "boolean `true`"
  | .bool false => "boolean `false`"
  | .number (.whole n fits) => s!"integer `{String.ofList (numberChars (.whole n fits))}`"
  | .number n => s!"floating point `{String.ofList (numberChars n)}`"
  | .string s => "string " ++ Text.quoted s
  | .null => "null"
  | .sequence => "sequence"
  | .map => "map"

inductive ShapeFault where
  | wrongType (found : Found) (expected : String)
  | wrongValue (found : Found) (expected : String)
  | wrongLength (length : Nat) (expected : String)
  | unknownVariant (name : String) (known : List String)
  | unknownField (name : String) (known : List String)
  | missingField (name : String)
  | duplicateField (name : String)
  | custom (text : String)
deriving DecidableEq, Repr

def alternatives : List String → String
  | [] => "there are none"
  | [a] => s!"expected `{a}`"
  | [a, b] => s!"expected `{a}` or `{b}`"
  | names => "expected one of " ++ Text.join ", " (names.map fun n => s!"`{n}`")

def ShapeFault.message : ShapeFault → String
  | .wrongType found expected => s!"invalid type: {found.description}, expected {expected}"
  | .wrongValue found expected => s!"invalid value: {found.description}, expected {expected}"
  | .wrongLength length expected => s!"invalid length {length}, expected {expected}"
  | .unknownVariant name known => s!"unknown variant `{name}`, {alternatives known}"
  | .unknownField name known => s!"unknown field `{name}`, {alternatives known}"
  | .missingField name => s!"missing field `{name}`"
  | .duplicateField name => s!"duplicate field `{name}`"
  | .custom text => text

inductive ReadFault where
  | malformed (fault : TextFault)
  | misshapen (fault : ShapeFault)
deriving DecidableEq, Repr

def ReadFault.message : ReadFault → String
  | .malformed fault => fault.message
  | .misshapen fault => fault.message

end Walkthrough.Json
