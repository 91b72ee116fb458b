import Walkthrough.Number.Decimal
import Walkthrough.Text.Blank

/-!
Moments in time, written as date and time of day in UTC. The proleptic Gregorian calendar is
computed from the number of days since 1970.
-/
namespace Walkthrough

/-- Seconds since 1970 and the nanoseconds that follow them. A leap second is counted in the
nanoseconds, which then reach past one second. -/
structure Timestamp where
  seconds : Int
  nanos : Nat
  nanos_lt : nanos < 2000000000 := by decide
deriving DecidableEq, Repr

structure CivilDate where
  year : Int
  month : Nat
  day : Nat
deriving DecidableEq, Repr

namespace CivilDate

/-- Days since 1970, counted in eras of 400 years that begin with March. -/
def toDays (d : CivilDate) : Int :=
  let year := if d.month ≤ 2 then d.year - 1 else d.year
  let era := year / 400
  let yearOfEra := year - era * 400
  let month : Int := if d.month ≤ 2 then d.month + 9 else d.month - 3
  let dayOfYear := (153 * month + 2) / 5 + d.day - 1
  let dayOfEra := yearOfEra * 365 + yearOfEra / 4 - yearOfEra / 100 + dayOfYear
  era * 146097 + dayOfEra - 719468

def ofDays (days : Int) : CivilDate :=
  let shifted := days + 719468
  let era := shifted / 146097
  let dayOfEra := shifted - era * 146097
  let yearOfEra :=
    (dayOfEra - dayOfEra / 1460 + dayOfEra / 36524 - dayOfEra / 146096) / 365
  let dayOfYear := dayOfEra - (365 * yearOfEra + yearOfEra / 4 - yearOfEra / 100)
  let month := (5 * dayOfYear + 2) / 153
  let day := dayOfYear - (153 * month + 2) / 5 + 1
  let civilMonth := if month < 10 then month + 3 else month - 9
  let year := yearOfEra + era * 400 + (if civilMonth ≤ 2 then 1 else 0)
  ⟨year, civilMonth.toNat, day.toNat⟩

def isLeapYear (year : Int) : Bool :=
  year % 4 == 0 && (year % 100 != 0 || year % 400 == 0)

def daysInMonth (year : Int) (month : Nat) : Nat :=
  if month = 2 then (if isLeapYear year then 29 else 28)
  else if month = 4 ∨ month = 6 ∨ month = 9 ∨ month = 11 then 30
  else 31

def hasYear (year : Int) : Bool := -262143 ≤ year && year ≤ 262142

def isValid (d : CivilDate) : Bool :=
  hasYear d.year && 1 ≤ d.month && d.month ≤ 12 && 1 ≤ d.day
    && d.day ≤ daysInMonth d.year d.month

end CivilDate

namespace Timestamp

instance : Inhabited Timestamp := ⟨⟨0, 0, by decide⟩⟩

def ofMillis (ms : Nat) : Timestamp :=
  ⟨(ms / 1000 : Nat), ms % 1000 * 1000000, by omega⟩

def padded (width n : Nat) : List Char :=
  let digits := decimalDigits n
  List.replicate (width - digits.length) '0' ++ digits

/-- Years of four digits stand alone, others have a sign. -/
def yearChars (year : Int) : List Char :=
  if 0 ≤ year ∧ year ≤ 9999 then padded 4 year.toNat
  else (if year < 0 then '-' else '+') :: padded 4 year.natAbs

/-- As many groups of three digits as the fraction needs. -/
def fractionChars (nanos : Nat) : List Char :=
  if nanos = 0 then []
  else if nanos % 1000000 = 0 then '.' :: padded 3 (nanos / 1000000)
  else if nanos % 1000 = 0 then '.' :: padded 6 (nanos / 1000)
  else '.' :: padded 9 nanos

def chars (t : Timestamp) : List Char :=
  let days := t.seconds / 86400
  let second := (t.seconds - days * 86400).toNat
  let date := CivilDate.ofDays days
  let leap := t.nanos / 1000000000
  yearChars date.year ++ '-' :: (padded 2 date.month ++ '-' :: (padded 2 date.day ++ 'T' ::
    (padded 2 (second / 3600) ++ ':' :: (padded 2 (second / 60 % 60) ++ ':' ::
      (padded 2 (second % 60 + leap) ++ (fractionChars (t.nanos % 1000000000) ++ ['Z']))))))

def text (t : Timestamp) : String := String.ofList t.chars

inductive Fault where
  | outOfRange
  | impossible
  | tooShort
  | tooLong
  | invalid
deriving DecidableEq, Repr

def Fault.message : Fault → String
  | .outOfRange => "input is out of range"
  | .impossible => "no possible date and time matching input"
  | .tooShort => "premature end of input"
  | .tooLong => "trailing input"
  | .invalid => "input contains invalid characters"

def takeNumber (width : Nat) (cs : List Char) : Except Fault (Nat × List Char) :=
  let digits := (cs.take width).takeWhile Char.isDigit
  if digits.isEmpty then .error (if cs.isEmpty then .tooShort else .invalid)
  else
    let n := Binary64.digitsValue (digits.filterMap digitOf?)
    if 9223372036854775807 < n then .error .outOfRange
    else .ok (n, cs.drop digits.length)

def takeField (low high : Nat) (cs : List Char) : Except Fault (Nat × List Char) := do
  let (n, rest) ← takeNumber 2 (Text.trimStart cs)
  if low ≤ n ∧ n ≤ high then return (n, rest) else throw .outOfRange

def takeYear (cs : List Char) : Except Fault (Int × List Char) := do
  let cs := Text.trimStart cs
  let (year, rest) ← (match cs with
    | '-' :: rest => do
      let (n, rest) ← takeNumber rest.length rest
      return (-(n : Int), rest)
    | '+' :: rest => do
      let (n, rest) ← takeNumber rest.length rest
      return ((n : Int), rest)
    | rest => do
      let (n, rest) ← takeNumber 4 rest
      return ((n : Int), rest) : Except Fault (Int × List Char))
  if -2147483648 ≤ year ∧ year ≤ 2147483647 then return (year, rest) else throw .outOfRange

def takeMark (mark : Char) (cs : List Char) : Except Fault (List Char) :=
  match Text.trimStart cs with
  | [] => .error .tooShort
  | c :: rest => if c = mark then .ok rest else .error .invalid

/-- Up to nine digits of a fraction count, further ones are passed over. -/
def takeNanos : List Char → Except Fault (Nat × List Char)
  | '.' :: rest => do
    let (n, after) ← takeNumber 9 rest
    let width := rest.length - after.length
    return (n * tenTo (9 - width), after.dropWhile Char.isDigit)
  | rest => .ok (0, rest)

/-- Two digits. One character that takes two bytes is none, but is not too short either. -/
def takeTwoDigits : List Char → Except Fault (Nat × Nat × List Char)
  | a :: b :: rest =>
    match digitOf? a, digitOf? b with
    | some a, some b => .ok (a, b, rest)
    | _, _ => .error .invalid
  | [c] => .error (if c.toNat < 128 then .tooShort else .invalid)
  | [] => .error .tooShort

def takeOffset (cs : List Char) : Except Fault (Int × List Char) :=
  match cs with
  | [] => .error .tooShort
  | c :: rest =>
    if ((cs.take 3).map Char.toUpper) = ['U', 'T', 'C'] then .ok (0, cs.drop 3)
    else if c = 'Z' ∨ c = 'z' then .ok (0, rest)
    else if c = '+' ∨ c = '-' ∨ c = '−' then do
      let (h, h', rest) ← takeTwoDigits rest
      let (m, m', rest) ← takeTwoDigits (rest.dropWhile fun d => d = ':' || Text.isBlank d)
      if 6 ≤ m then throw .outOfRange
      let size : Int := (10 * h + h') * 3600 + (10 * m + m') * 60
      return (if c = '+' then size else -size, rest)
    else .error .invalid

/-- Puts the fields together. Second 60 is a leap second after second 59. Taking the offset away
must not lead to a year that is not reckoned with. -/
def ofFields (date : CivilDate) (hour minute second nanos : Nat) (offset : Int) :
    Except Fault Timestamp :=
  if date.isValid ∧ offset.natAbs < 86400 then
    let leap := if second = 60 then 1 else 0
    let total := nanos + leap * 1000000000
    let seconds :=
      date.toDays * 86400 + (hour * 3600 + minute * 60 + (second - leap) : Nat) - offset
    if !CivilDate.hasYear (CivilDate.ofDays (seconds / 86400)).year then .error .impossible
    else if fits : total < 2000000000 then .ok ⟨seconds, total, fits⟩
    else .error .outOfRange
  else .error .outOfRange

/-- Reads a date and a time of day with an offset. Between the two stands a `T` or a blank, and
blanks may surround the parts. -/
def parse (text : String) : Except Fault Timestamp := do
  let (year, cs) ← takeYear text.toList
  let cs ← takeMark '-' cs
  let (month, cs) ← takeField 1 12 cs
  let cs ← takeMark '-' cs
  let (day, cs) ← takeField 1 31 cs
  let cs ← (match cs with
    | [] => .error .tooShort
    | c :: rest => if c = 'T' ∨ c = 't' ∨ c = ' ' then .ok rest else .error .invalid :
      Except Fault (List Char))
  let (hour, cs) ← takeField 0 23 cs
  let cs ← takeMark ':' cs
  let (minute, cs) ← takeField 0 59 cs
  let cs ← takeMark ':' cs
  let (second, cs) ← takeField 0 60 cs
  let (nanos, cs) ← takeNanos cs
  let (offset, cs) ← takeOffset (Text.trimStart cs)
  if (Text.trimStart cs).isEmpty then ofFields ⟨year, month, day⟩ hour minute second nanos offset
  else throw .tooLong

end Timestamp

end Walkthrough
