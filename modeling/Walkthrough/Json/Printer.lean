import Walkthrough.Json.Value
import Walkthrough.Text.Quoted

/-!
JSON text of a value, compact or indented. Members are written in the order in which they stand.
-/
namespace Walkthrough.Json

def escapeChar (c : Char) : List Char :=
  if c = '"' then ['\\', '"']
  else if c = '\\' then ['\\', '\\']
  else if c.toNat = 8 then ['\\', 'b']
  else if c.toNat = 9 then ['\\', 't']
  else if c.toNat = 10 then ['\\', 'n']
  else if c.toNat = 12 then ['\\', 'f']
  else if c.toNat = 13 then ['\\', 'r']
  else if c.toNat < 32 then
    ['\\', 'u', '0', '0', Text.lowerHexDigit (c.toNat / 16), Text.lowerHexDigit (c.toNat % 16)]
  else [c]

def stringChars (s : String) : List Char := '"' :: (s.toList.flatMap escapeChar ++ ['"'])

def numberChars : JsonNumber → List Char
  | .whole n _ => Binary64.signChars (n < 0) ++ decimalDigits n.natAbs
  | .real negative size => Binary64.signChars negative ++ size.shortest.inData

mutual

def chars : Json → List Char
  | .null => ['n', 'u', 'l', 'l']
  | .bool true => ['t', 'r', 'u', 'e']
  | .bool false => ['f', 'a', 'l', 's', 'e']
  | .number n => numberChars n
  | .string s => stringChars s
  | .array [] => ['[', ']']
  | .array (item :: rest) => '[' :: (chars item ++ itemsChars rest)
  | .object [] => ['\x7b', '\x7d']
  | .object ((name, value) :: rest) =>
    '\x7b' :: (stringChars name ++ ':' :: (chars value ++ membersChars rest))

def itemsChars : List Json → List Char
  | [] => [']']
  | item :: rest => ',' :: (chars item ++ itemsChars rest)

def membersChars : List (String × Json) → List Char
  | [] => ['\x7d']
  | (name, value) :: rest => ',' :: (stringChars name ++ ':' :: (chars value ++ membersChars rest))

end

def compact (j : Json) : String := String.ofList (chars j)

def newLine (depth : Nat) : List Char := '\n' :: List.replicate (2 * depth) ' '

mutual

def indentedChars (depth : Nat) : Json → List Char
  | .array (item :: rest) =>
    '[' :: (newLine (depth + 1) ++ indentedChars (depth + 1) item ++ indentedItems depth rest)
  | .object ((name, value) :: rest) =>
    '\x7b' :: (newLine (depth + 1) ++ stringChars name ++ ':' :: ' ' ::
      (indentedChars (depth + 1) value ++ indentedMembers depth rest))
  | .array [] => ['[', ']']
  | .object [] => ['\x7b', '\x7d']
  | .null => chars .null
  | .bool b => chars (.bool b)
  | .number n => chars (.number n)
  | .string s => chars (.string s)

def indentedItems (depth : Nat) : List Json → List Char
  | [] => newLine depth ++ [']']
  | item :: rest =>
    ',' :: (newLine (depth + 1) ++ indentedChars (depth + 1) item ++ indentedItems depth rest)

def indentedMembers (depth : Nat) : List (String × Json) → List Char
  | [] => newLine depth ++ ['\x7d']
  | (name, value) :: rest =>
    ',' :: (newLine (depth + 1) ++ stringChars name ++ ':' :: ' ' ::
      (indentedChars (depth + 1) value ++ indentedMembers depth rest))

end

def indented (j : Json) : String := String.ofList (indentedChars 0 j)

end Walkthrough.Json
