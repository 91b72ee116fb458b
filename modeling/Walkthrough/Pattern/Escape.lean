import Walkthrough.Pattern.Fault
import Walkthrough.Pattern.Property
import Walkthrough.Pattern.Regex
import Walkthrough.Text.Blank

/-!
Escapes in patterns: a backslash and what follows it stand for a character, for a set of characters
or for a look at the place where they are.
-/
namespace Walkthrough.Pattern

open Unicode (CodeSet)

structure Flags where
  caseless : Bool := false
  manyLines : Bool := false
  dotAll : Bool := false
  anyLineEnd : Bool := false
  /-- Repetition is lazy where no mark makes it so, and the other way round. -/
  swapLazy : Bool := false
  unicode : Bool := true
  ignoreSpace : Bool := false
deriving DecidableEq, Repr

def skipIgnored (flags : Flags) : List Char → List Char
  | [] => []
  | c :: rest =>
    if !flags.ignoreSpace then c :: rest
    else if Text.isBlank c then skipIgnored flags rest
    else if c = '#' then skipComment rest
    else c :: rest
where
  skipComment : List Char → List Char
    | [] => []
    | c :: rest => if c = '\n' then skipIgnored flags rest else skipComment rest

def isMeta (c : Char) : Bool := "\\.+*?()|[]\x7b\x7d^$#&-~".toList.contains c

/-- An escape stands for itself when it is ASCII and neither a letter, a digit nor an angle. -/
def escapesItself (c : Char) : Bool :=
  isMeta c || (c.toNat < 128 && !c.isAlphanum && c != '<' && c != '>')

inductive Escape where
  /-- A character; one that is given by two hexadecimal digits stands for a byte where Unicode is
  switched off. -/
  | char (c : Char) (isByte : Bool)
  | set (s : CodeSet)
  | look (l : Look)

def asciiWord : CodeSet := .ofTable ["30-39 41-5A 5F 61-7A"]

def asciiBlank : CodeSet := .ofTable ["9-D 20"]

def wordSet (flags : Flags) : CodeSet := if flags.unicode then Unicode.wordChars else asciiWord

def negatedIf (negated : Bool) (s : CodeSet) : CodeSet := if negated then s.complement else s

def foldedIf (flags : Flags) (s : CodeSet) : CodeSet :=
  if !flags.caseless then s else if flags.unicode then s.folded else s.asciiFolded

def charOfHex (digits : List Char) : Except Fault Char :=
  let n := Unicode.hexValue digits
  if n.isValidChar then .ok (Char.ofNat n) else .error .badHexEscape

def takeHexDigits (flags : Flags) : Nat → List Char → Except Fault (List Char × List Char)
  | 0, cs => .ok ([], cs)
  | _ + 1, [] => .error .unfinishedEscape
  | n + 1, c :: rest =>
    if (Unicode.hexDigit? c).isSome then do
      let (digits, rest) ← takeHexDigits flags n (skipIgnored flags rest)
      return (c :: digits, rest)
    else .error .badHexEscape

def takeBraced (flags : Flags) : Nat → List Char → Except Fault (List Char × List Char)
  | 0, _ => .error .unfinishedEscape
  | fuel + 1, cs =>
    match skipIgnored flags cs with
    | [] => .error .unfinishedEscape
    | c :: rest =>
      if c = '\x7d' then .ok ([], rest)
      else do
        let (body, rest) ← takeBraced flags fuel rest
        return (c :: body, rest)

def takeHex (flags : Flags) (width : Nat) (cs : List Char) : Except Fault (Escape × List Char) :=
  match skipIgnored flags cs with
  | [] => .error .unfinishedEscape
  | '\x7b' :: rest => do
    let (digits, rest) ← takeBraced flags rest.length rest
    if digits.isEmpty ∨ !digits.all (fun c => (Unicode.hexDigit? c).isSome) then
      throw .badHexEscape
    let c ← charOfHex digits
    return (.char c false, skipIgnored flags rest)
  | cs => do
    let (digits, rest) ← takeHexDigits flags width cs
    let c ← charOfHex digits
    return (.char c (width == 2), rest)

def splitAtMark (mark : List Char) : List Char → Option (List Char × List Char)
  | [] => none
  | c :: rest =>
    if mark.isPrefixOf (c :: rest) then some ([], (c :: rest).drop mark.length)
    else (splitAtMark mark rest).map fun (before, after) => (c :: before, after)

def propertySet (body : List Char) : Except Fault (CodeSet × Bool) :=
  let found : Option CodeSet × Bool :=
    let byValue (property value : List Char) : Option CodeSet :=
      ofPropertyValue? (String.ofList property) (String.ofList value)
    match splitAtMark ['!', '='] body with
    | some (property, value) => (byValue property value, true)
    | none =>
      match splitAtMark [':'] body <|> splitAtMark ['='] body with
      | some (property, value) => (byValue property value, false)
      | none => (ofPropertyName? (String.ofList body), false)
  match found with
  | (some s, absent) => .ok (s, absent)
  | (none, _) => .error .unknownProperty

def takeProperty (flags : Flags) (negated : Bool) (cs : List Char) :
    Except Fault (CodeSet × List Char) := do
  if !flags.unicode then throw .notUnicode
  let (body, rest) ← (match skipIgnored flags cs with
    | [] => .error .unfinishedEscape
    | '\x7b' :: rest => takeBraced flags rest.length rest
    | '\\' :: _ => .error .unknownProperty
    | c :: rest => .ok ([c], skipIgnored flags rest) : Except Fault (List Char × List Char))
  let (s, absent) ← propertySet body
  return (negatedIf (negated != absent) (foldedIf flags s), rest)

def shorthandSet (flags : Flags) (kind : Char) : CodeSet :=
  if kind = 'd' then (if flags.unicode then Unicode.decimalNumbers else .range 0x30 0x39)
  else if kind = 's' then (if flags.unicode then Unicode.whiteSpace else asciiBlank)
  else wordSet flags

def isBoundaryChar (c : Char) : Bool := c.isAlpha || c == '-'

/-- A word boundary may be named in braces; braces that hold no name are left for a count. -/
def takeBoundary (flags : Flags) (cs : List Char) : Except Fault (Look × List Char) :=
  let ascii := !flags.unicode
  match cs with
  | '\x7b' :: rest =>
    match skipIgnored flags rest with
    | [] => .error .badWordBoundary
    | c :: _ =>
      if !isBoundaryChar c then .ok (.wordBoundary ascii, cs)
      else
        match takeBraced flags rest.length rest with
        | .error _ => .error .badWordBoundary
        | .ok (name, rest) =>
          if name = "start".toList then .ok (.wordStart ascii, rest)
          else if name = "end".toList then .ok (.wordEnd ascii, rest)
          else if name = "start-half".toList then .ok (.notAfterWord ascii, rest)
          else if name = "end-half".toList then .ok (.notBeforeWord ascii, rest)
          else .error .badWordBoundary
  | _ => .ok (.wordBoundary ascii, cs)

def letterChars : List (Char × Char) :=
  [('a', '\x07'), ('f', '\x0c'), ('t', '\t'), ('n', '\n'), ('r', '\r'), ('v', '\x0b')]

def takeEscape (flags : Flags) : List Char → Except Fault (Escape × List Char)
  | [] => .error .unfinishedEscape
  | c :: rest =>
    if c.isDigit then .error .backReference
    else if c = 'x' then takeHex flags 2 rest
    else if c = 'u' then takeHex flags 4 rest
    else if c = 'U' then takeHex flags 8 rest
    else if c = 'p' ∨ c = 'P' then
      (takeProperty flags (c = 'P') rest).map fun (s, more) => (.set s, more)
    else if c = 'd' ∨ c = 's' ∨ c = 'w' then .ok (.set (shorthandSet flags c), rest)
    else if c = 'D' ∨ c = 'S' ∨ c = 'W' then
      if flags.unicode then .ok (.set (shorthandSet flags c.toLower).complement, rest)
      else .error .notUnicode
    else if escapesItself c then .ok (.char c false, rest)
    else match letterChars.lookup c with
      | some d => .ok (.char d false, rest)
      | none =>
        if c = 'A' then .ok (.look .startOfText, rest)
        else if c = 'z' then .ok (.look .endOfText, rest)
        else if c = 'b' then (takeBoundary flags rest).map fun (l, more) => (.look l, more)
        else if c = 'B' then .ok (.look (.noWordBoundary !flags.unicode), rest)
        else if c = '<' then .ok (.look (.wordStart !flags.unicode), rest)
        else if c = '>' then .ok (.look (.wordEnd !flags.unicode), rest)
        else .error .unknownEscape

end Walkthrough.Pattern
