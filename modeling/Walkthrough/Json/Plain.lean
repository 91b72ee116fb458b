import Walkthrough.Json.Printer
import Walkthrough.Text.Blank

/-!
The plain text of a JSON value: what is typed into a field, and what page texts are compared with.
-/
namespace Walkthrough.Json

/-- Whole binary64 numbers below this size are written without a point or an exponent. -/
def plainWholeBound : Nat := tenTo 21

def wordText (negative : Bool) (n : Nat) : List Char :=
  if n = 0 then ['0']
  else if negative then '-' :: decimalDigits (min n 9223372036854775808)
  else decimalDigits (min n 9223372036854775807)

def plainNumber : JsonNumber → List Char
  | .whole n fits => numberChars (.whole n fits)
  | .real negative size =>
    if size.isWhole ∧ size.floor < plainWholeBound then wordText negative size.floor
    else numberChars (.real negative size)

mutual

/-- Strings stand for themselves, the items of an array are joined by commas, with nothing for a
null among them, and no object shows its members. -/
def plainChars : Json → List Char
  | .null => ['n', 'u', 'l', 'l']
  | .bool true => ['t', 'r', 'u', 'e']
  | .bool false => ['f', 'a', 'l', 's', 'e']
  | .number n => plainNumber n
  | .string s => s.toList
  | .array items => Text.joinWith [','] (plainItems items)
  | .object _ => "[object Object]".toList

def plainItems : List Json → List (List Char)
  | [] => []
  | .null :: rest => [] :: plainItems rest
  | item :: rest => plainChars item :: plainItems rest

end

def plain (j : Json) : String := String.ofList (plainChars j)

def plainOf : Option Json → String
  | some j => j.plain
  | none => ""

end Walkthrough.Json
