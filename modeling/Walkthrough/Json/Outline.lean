import Walkthrough.Json.Fault

/-!
The outline of a text is its JSON structure as far as it makes sense: numbers and strings keep their
own faults, and where the text stops making sense the outline ends in the fault. A reader that walks
the outline in order meets faults of form and of shape in the order of the text.
-/
namespace Walkthrough.Json

structure Numeral where
  negative : Bool
  whole : List Nat
  fraction : List Nat
  /-- Sign (true for minus) and digits of the exponent. -/
  exponent : Option (Bool × List Nat)
deriving DecidableEq, Repr

inductive Piece where
  | char (c : Char)
  | unit (n : Nat)
deriving DecidableEq, Repr

structure Quotation where
  pieces : List Piece
  ending : Option TextFault
deriving DecidableEq, Repr

inductive Outline where
  | null
  | bool (b : Bool)
  | number (n : Except TextFault JsonNumber)
  | string (s : Quotation)
  | list (items : List Outline) (ending : Option TextFault)
  | record (members : List (Quotation × Outline)) (ending : Option TextFault)
  | broken (fault : TextFault)

instance : Inhabited Outline := ⟨.null⟩

namespace Numeral

def wordLimit : Nat := 18446744073709551615

def takeWord (acc : Nat) : List Nat → Nat × List Nat
  | [] => (acc, [])
  | d :: rest => if 10 * acc + d ≤ wordLimit then takeWord (10 * acc + d) rest else (acc, d :: rest)

/-- Multiplies by a power of ten in steps of at most `10 ^ 308`, each step rounded. -/
def shiftDecimal : Nat → Magnitude → Int → Except TextFault Magnitude
  | 0, m, _ => .ok m
  | tries + 1, m, power =>
    if power.natAbs ≤ 308 then
      match Magnitude.ofNat? (tenTo power.natAbs) with
      | none => .error .numberOutOfRange
      | some ten =>
        match if 0 ≤ power then m.times? ten else m.over? ten with
        | some r => .ok r
        | none => .error .numberOutOfRange
    else if m.isZero then .ok m
    else if 0 ≤ power then .error .numberOutOfRange
    else match (Magnitude.ofNat? (tenTo 308)).bind m.over? with
      | some r => shiftDecimal tries r (power + 308)
      | none => .error .numberOutOfRange

def real (negative : Bool) (significand : Nat) (power : Int) : Except TextFault JsonNumber :=
  match Magnitude.ofNat? significand with
  | none => .error .numberOutOfRange
  | some m => (shiftDecimal (power.natAbs + 1) m power).map (.real negative)

/-- Exponents past this one are not computed with. -/
def exponentLimit : Nat := 2147483647

/-- A whole number of word size stays whole; a negative zero and all else become binary64. Of the
digits those that fit a word count, the others of the whole part only as places. -/
def number (n : Numeral) : Except TextFault JsonNumber :=
  let (whole, rest) := takeWord 0 n.whole
  if n.fraction.isEmpty && n.exponent.isNone && rest.isEmpty then
    let value : Int := if n.negative then -(whole : Int) else whole
    if n.negative && whole == 0 then real true 0 0
    else if fits : FitsWord value then .ok (.whole value fits)
    else real n.negative whole 0
  else
    let (significand, unread) := takeWord whole n.fraction
    let power : Int := rest.length - (n.fraction.length - unread.length : Nat)
    match n.exponent with
    | none => real n.negative significand power
    | some (minus, digits) =>
      let size := Binary64.digitsValue digits
      if exponentLimit < size then
        if significand ≠ 0 ∧ !minus then .error .numberOutOfRange
        else .ok (.real n.negative .zero)
      else real n.negative significand (if minus then power - size else power + size)

end Numeral

namespace Quotation

def isHighUnit (n : Nat) : Bool := 0xD800 ≤ n && n ≤ 0xDBFF
def isLowUnit (n : Nat) : Bool := 0xDC00 ≤ n && n ≤ 0xDFFF

/-- The text of the pieces. A high unit must be followed by a low one, with which it makes one
character; no other unit of either kind may stand. -/
def charsOf (ending : Option TextFault) : List Piece → Except TextFault (List Char)
  | [] => match ending with
    | none => .ok []
    | some fault => .error fault
  | .char c :: rest => (charsOf ending rest).map (c :: ·)
  | .unit n :: rest =>
    if isLowUnit n then .error .loneSurrogate
    else if isHighUnit n then
      match rest with
      | .unit low :: more =>
        if isLowUnit low then
          (charsOf ending more).map
            (Char.ofNat (0x10000 + (n - 0xD800) * 0x400 + (low - 0xDC00)) :: ·)
        else .error .loneSurrogate
      | .char _ :: _ => .error .unfinishedHexEscape
      | [] => match ending with
        | some .endInString => .error .endInString
        | some .badHexEscape => .error .badHexEscape
        | _ => .error .unfinishedHexEscape
    else (charsOf ending rest).map (Char.ofNat n :: ·)

def text (q : Quotation) : Except TextFault String :=
  (charsOf q.ending q.pieces).map String.ofList

end Quotation

def isSpace (c : Char) : Bool := c = ' ' || c = '\n' || c = '\t' || c = '\r'

def skipSpace (cs : List Char) : List Char := cs.dropWhile isSpace

def hexUnit? (a b c d : Char) : Option Nat := do
  let a ← Unicode.hexDigit? a
  let b ← Unicode.hexDigit? b
  let c ← Unicode.hexDigit? c
  let d ← Unicode.hexDigit? d
  return ((a * 16 + b) * 16 + c) * 16 + d

def letterEscape? (c : Char) : Option Char :=
  if c = '"' ∨ c = '\\' ∨ c = '/' then some c
  else if c = 'b' then some '\x08'
  else if c = 'f' then some '\x0c'
  else if c = 'n' then some '\n'
  else if c = 'r' then some '\r'
  else if c = 't' then some '\t'
  else none

/-- Reads a string after its opening quote, and returns what follows the closing one. An escape by
number takes four bytes: a text that ends before them is cut off. -/
def takeString : List Char → Quotation × List Char
  | [] => (⟨[], some .endInString⟩, [])
  | '\\' :: 'u' :: a :: b :: c :: d :: rest =>
    match hexUnit? a b c d with
    | some n => let (q, more) := takeString rest; (⟨.unit n :: q.pieces, q.ending⟩, more)
    | none => (⟨[], some .badHexEscape⟩, [])
  | '\\' :: e :: rest =>
    match letterEscape? e with
    | some c => let (q, more) := takeString rest; (⟨.char c :: q.pieces, q.ending⟩, more)
    | none =>
      let fault : TextFault :=
        if e ≠ 'u' then .badEscape
        else if (String.ofList rest).utf8ByteSize < 4 then .endInString
        else .badHexEscape
      (⟨[], some fault⟩, [])
  | ['\\'] => (⟨[], some .endInString⟩, [])
  | c :: rest =>
    if c = '"' then (⟨[], none⟩, rest)
    else if c.toNat < 32 then (⟨[], some .controlCharacter⟩, [])
    else let (q, more) := takeString rest; (⟨.char c :: q.pieces, q.ending⟩, more)

def takeSomeDigits (cs : List Char) : Except TextFault (List Nat × List Char) :=
  match takeDigits cs with
  | ([], []) => .error .endInNumber
  | ([], _ :: _) => .error .badNumber
  | found => .ok found

def takeFraction : List Char → Except TextFault (List Nat × List Char)
  | '.' :: rest => takeSomeDigits rest
  | rest => .ok ([], rest)

def takeExponent : List Char → Except TextFault (Option (Bool × List Nat) × List Char)
  | [] => .ok (none, [])
  | c :: rest =>
    if c = 'e' ∨ c = 'E' then
      let (minus, body) := match rest with
        | '-' :: more => (true, more)
        | '+' :: more => (false, more)
        | more => (false, more)
      (takeSomeDigits body).map fun (digits, more) => (some (minus, digits), more)
    else .ok (none, c :: rest)

def takeWhole (cs : List Char) : Except TextFault (List Nat × List Char) :=
  match takeSomeDigits cs with
  | .ok (0 :: _ :: _, _) => .error .badNumber
  | found => found

def takeNumeral (negative : Bool) (cs : List Char) : Except TextFault (Numeral × List Char) := do
  let (whole, rest) ← takeWhole cs
  let (fraction, rest) ← takeFraction rest
  let (exponent, rest) ← takeExponent rest
  return (⟨negative, whole, fraction, exponent⟩, rest)

def takeWordRest : List Char → List Char → Except TextFault (List Char)
  | [], rest => .ok rest
  | _ :: _, [] => .error .endInValue
  | c :: word, d :: rest => if c = d then takeWordRest word rest else .error .expectedIdent

abbrev Taken (α : Type) := α × Option (List Char)

def brokenAt (fault : TextFault) : Taken Outline := (.broken fault, none)

def takenWord (o : Outline) : Except TextFault (List Char) → Taken Outline
  | .ok rest => (o, some rest)
  | .error fault => brokenAt fault

def takenNumeral : Except TextFault (Numeral × List Char) → Taken Outline
  | .ok (n, rest) => (.number n.number, some rest)
  | .error fault => brokenAt fault

mutual

def takeValue : Nat → List Char → Taken Outline
  | 0, _ => brokenAt .expectedValue
  | fuel + 1, cs =>
    match skipSpace cs with
    | [] => brokenAt .endInValue
    | c :: rest =>
      if c = '"' then
        let (q, more) := takeString rest
        (.string q, if q.ending.isNone then some more else none)
      else if c = '[' then
        let ((items, ending), more) := takeFirstItem fuel rest
        (.list items ending, more)
      else if c = '\x7b' then
        let ((members, ending), more) := takeFirstMember fuel rest
        (.record members ending, more)
      else if c = 'n' then takenWord .null (takeWordRest ['u', 'l', 'l'] rest)
      else if c = 't' then takenWord (.bool true) (takeWordRest ['r', 'u', 'e'] rest)
      else if c = 'f' then takenWord (.bool false) (takeWordRest ['a', 'l', 's', 'e'] rest)
      else if c = '-' then takenNumeral (takeNumeral true rest)
      else if c.isDigit then takenNumeral (takeNumeral false (c :: rest))
      else brokenAt .expectedValue

def takeFirstItem : Nat → List Char → Taken (List Outline × Option TextFault)
  | 0, _ => (([], some .endInList), none)
  | fuel + 1, cs =>
    match skipSpace cs with
    | [] => (([], some .endInList), none)
    | c :: rest =>
      if c = ']' then (([], none), some rest)
      else match takeValue fuel (c :: rest) with
        | (item, none) => (([item], none), none)
        | (item, some more) =>
          let ((items, ending), after) := takeItems fuel more
          ((item :: items, ending), after)

def takeItems : Nat → List Char → Taken (List Outline × Option TextFault)
  | 0, _ => (([], some .endInList), none)
  | fuel + 1, cs =>
    match skipSpace cs with
    | [] => (([], some .endInList), none)
    | c :: rest =>
      if c = ']' then (([], none), some rest)
      else if c = ',' then
        match skipSpace rest with
        | ']' :: _ => (([], some .trailingComma), none)
        | next =>
          match takeValue fuel next with
          | (item, none) => (([item], none), none)
          | (item, some more) =>
            let ((items, ending), after) := takeItems fuel more
            ((item :: items, ending), after)
      else (([], some .expectedListCommaOrEnd), none)

/-- Members of an object. A value that stands where the first name should is kept beside a name that
is none. -/
def takeFirstMember : Nat → List Char → Taken (List (Quotation × Outline) × Option TextFault)
  | 0, _ => (([], some .endInObject), none)
  | fuel + 1, cs =>
    match skipSpace cs with
    | [] => (([], some .endInObject), none)
    | c :: rest =>
      if c = '\x7d' then (([], none), some rest)
      else if c = '"' then takeMember fuel rest
      else (([(⟨[], some .keyNotString⟩, (takeValue fuel (c :: rest)).1)], none), none)

def takeMember : Nat → List Char → Taken (List (Quotation × Outline) × Option TextFault)
  | 0, _ => (([], some .endInObject), none)
  | fuel + 1, cs =>
    let (name, rest) := takeString cs
    if name.ending.isSome then (([(name, .broken .endInString)], none), none)
    else match skipSpace rest with
      | [] => (([(name, .broken .endInObject)], none), none)
      | c :: rest =>
        if c ≠ ':' then (([(name, .broken .expectedColon)], none), none)
        else match takeValue fuel rest with
          | (value, none) => (([(name, value)], none), none)
          | (value, some more) =>
            let ((members, ending), after) := takeMembers fuel more
            (((name, value) :: members, ending), after)

def takeMembers : Nat → List Char → Taken (List (Quotation × Outline) × Option TextFault)
  | 0, _ => (([], some .endInObject), none)
  | fuel + 1, cs =>
    match skipSpace cs with
    | [] => (([], some .endInObject), none)
    | c :: rest =>
      if c = '\x7d' then (([], none), some rest)
      else if c = ',' then
        match skipSpace rest with
        | [] => (([], some .endInValue), none)
        | d :: more =>
          if d = '"' then takeMember fuel more
          else if d = '\x7d' then (([], some .trailingComma), none)
          else (([], some .keyNotString), none)
      else (([], some .expectedObjectCommaOrEnd), none)

end

/-- Every step of the reading takes a character, or is followed by one that does. -/
def outlineOf (text : String) : Taken Outline :=
  let cs := text.toList
  takeValue (3 * cs.length + 3) cs

mutual

def outlineOfValue : Json → Outline
  | .null => .null
  | .bool b => .bool b
  | .number n => .number (.ok n)
  | .string s => .string ⟨s.toList.map .char, none⟩
  | .array items => .list (outlineOfItems items) none
  | .object members => .record (outlineOfMembers members) none

def outlineOfItems : List Json → List Outline
  | [] => []
  | item :: rest => outlineOfValue item :: outlineOfItems rest

def outlineOfMembers : List (String × Json) → List (Quotation × Outline)
  | [] => []
  | (name, value) :: rest =>
    (⟨name.toList.map .char, none⟩, outlineOfValue value) :: outlineOfMembers rest

end

end Walkthrough.Json
