import Walkthrough.Unicode.Property

/-!
Text in double quotes with escapes, as messages show names and paths.
-/
namespace Walkthrough.Text

def lowerHexDigit (n : Nat) : Char :=
  if n < 10 then Char.ofNat ('0'.toNat + n) else Char.ofNat ('a'.toNat + (n - 10))

def lowerHex (n : Nat) : List Char :=
  if n < 16 then [lowerHexDigit n]
  else lowerHex (n / 16) ++ [lowerHexDigit (n % 16)]
termination_by n

/-- Quotes and backslashes are escaped, the common controls by a letter, and every other character
that cannot be seen, or that attaches to the one before it, by its code point. -/
def quoteChar (c : Char) : List Char :=
  if c = '"' then ['\\', '"']
  else if c = '\\' then ['\\', '\\']
  else if c = '\n' then ['\\', 'n']
  else if c = '\r' then ['\\', 'r']
  else if c = '\t' then ['\\', 't']
  else if c.toNat = 0 then ['\\', '0']
  else if Unicode.isPrintable c && !Unicode.graphemeExtend.contains c then [c]
  else ['\\', 'u', '\x7b'] ++ lowerHex c.toNat ++ ['\x7d']

def quotedChars (cs : List Char) : List Char := '"' :: (cs.flatMap quoteChar ++ ['"'])

def quoted (s : String) : String := String.ofList (quotedChars s.toList)

def quotePathChar (c : Char) : List Char := if c = '\'' then ['\\', '\''] else quoteChar c

def quotedPath (path : String) : String :=
  String.ofList ('"' :: (path.toList.flatMap quotePathChar ++ ['"']))

end Walkthrough.Text
