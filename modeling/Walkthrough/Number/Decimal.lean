import Walkthrough.Number.Binary64

/-!
Decimal notation of binary64 numbers: the fewest digits that read back as the same number, the
notation that a data text uses, plain positional notation, and the reading of decimal notation.
Numerals in texts that are not data are an optional plus sign and decimal digits.
-/
namespace Walkthrough

structure Decimal where
  digits : Nat
  power : Int
deriving DecidableEq, Repr

def decimalDigits (n : Nat) : List Char := (Nat.repr n).toList

namespace Magnitude

/-- Quarter units, fine enough to name the ends of a rounding interval. -/
def quarters (m : Magnitude) : Nat := 4 * m.units

/-- The reals that round to a magnitude, in quarter units. Below a power of two the neighbour is
half as far away. -/
def roundingLow (m : Magnitude) : Nat :=
  if m.significand = twoTo 52 ∧ 0 < m.scale then m.quarters - twoTo m.scale
  else m.quarters - 2 * twoTo m.scale

def roundingHigh (m : Magnitude) : Nat := m.quarters + 2 * twoTo m.scale

def scaleByTen (power : Int) (x y : Nat) : Nat × Nat :=
  (x * tenTo (-power).toNat, y * tenTo power.toNat)

/-- Whether `n * 10 ^ power` rounds to the magnitude; the ends belong to an even one. -/
def roundsFrom (m : Magnitude) (power : Int) (n : Nat) : Bool :=
  let grid := n * tenTo power.toNat * (4 * unitsInOne)
  let low := m.roundingLow * tenTo (-power).toNat
  let high := m.roundingHigh * tenTo (-power).toNat
  if m.significand % 2 = 0 then low ≤ grid ∧ grid ≤ high else low < grid ∧ grid < high

def leadingPower (m : Magnitude) : Int :=
  let binary : Int := m.units.log2 - 1074
  let guess := (binary * 30103) / 100000
  let reaches (p : Int) : Bool :=
    unitsInOne * tenTo p.toNat ≤ m.units * tenTo (-p).toNat
  if reaches (guess + 1) then guess + 1 else if reaches guess then guess else guess - 1

/-- On the grid of `10 ^ power`, the nearest of the value's two neighbours that read back as the
magnitude; an exact tie goes to the even one. -/
def onGrid? (m : Magnitude) (power : Int) : Option Nat :=
  let (x, y) := scaleByTen power m.units unitsInOne
  let below := x / y
  let above := below + 1
  match m.roundsFrom power below && below != 0, m.roundsFrom power above with
  | true, true =>
    let r := x % y
    if 2 * r < y then some below
    else if y < 2 * r then some above
    else if below % 2 = 0 then some below else some above
  | true, false => some below
  | false, true => some above
  | false, false => none

def shortestFrom (m : Magnitude) (power : Int) : Nat → Decimal
  | 0 => ⟨(scaleByTen power m.units unitsInOne).1 / (scaleByTen power m.units unitsInOne).2, power⟩
  | tries + 1 =>
    match m.onGrid? power with
    | some n => ⟨n, power⟩
    | none => m.shortestFrom (power - 1) tries

/-- The fewest digits that read back as the magnitude, and of those the nearest. Seventeen digits
always do. -/
def shortest (m : Magnitude) : Decimal :=
  if m.isZero then ⟨0, 0⟩ else m.shortestFrom m.leadingPower 17

end Magnitude

namespace Decimal

def trim (d : Decimal) : Nat → Decimal
  | 0 => d
  | steps + 1 =>
    if d.digits ≠ 0 ∧ d.digits % 10 = 0 then (⟨d.digits / 10, d.power + 1⟩ : Decimal).trim steps
    else d

def positional (digits : List Char) (point : Int) (wholeTail : List Char) : List Char :=
  if point ≤ 0 then
    '0' :: '.' :: (List.replicate (-point).toNat '0' ++ digits)
  else if point.toNat < digits.length then
    digits.take point.toNat ++ '.' :: digits.drop point.toNat
  else
    digits ++ List.replicate (point.toNat - digits.length) '0' ++ wholeTail

/-- Notation of a data text: positional while the point falls at most sixteen digits in and at
most four zeros follow it, with `.0` after a whole number; else one digit before the point and a
signed exponent. -/
def inData (d : Decimal) : List Char :=
  let d := d.trim 25
  let digits := decimalDigits d.digits
  let point : Int := digits.length + d.power
  if d.digits = 0 then ['0', '.', '0']
  else if -5 < point ∧ point ≤ 16 then positional digits point ['.', '0']
  else
    let exponent := point - 1
    let mantissa := match digits with
      | [] => []
      | [c] => [c]
      | c :: rest => c :: '.' :: rest
    let sign := if exponent < 0 then '-' else '+'
    mantissa ++ 'e' :: sign :: decimalDigits exponent.natAbs

def plain (d : Decimal) : List Char :=
  let d := d.trim 25
  let digits := decimalDigits d.digits
  if d.digits = 0 then ['0'] else positional digits (digits.length + d.power) []

end Decimal

namespace Binary64

def signChars (negative : Bool) : List Char := if negative then ['-'] else []

def plain : Binary64 → List Char
  | .finite negative m => signChars negative ++ m.shortest.plain
  | .infinite negative => signChars negative ++ ['i', 'n', 'f']
  | .nan => ['N', 'a', 'N']

def digitsValue (digits : List Nat) : Nat := digits.foldl (fun n d => 10 * n + d) 0

/-- The number nearest to `digits * 10 ^ power`. Far outside the range of binary64 the answer is
known without computing the power. -/
def ofDecimal (negative : Bool) (digits : Nat) (power : Int) : Binary64 :=
  if digits = 0 then .finite negative .zero
  else
    let size : Int := (decimalDigits digits).length + power
    if 400 < size then .infinite negative
    else if size < -400 then .finite negative .zero
    else nearest negative (digits * tenTo power.toNat) (tenTo (-power).toNat)

end Binary64

def digitOf? (c : Char) : Option Nat :=
  if '0' ≤ c ∧ c ≤ '9' then some (c.toNat - '0'.toNat) else none

def takeDigits : List Char → List Nat × List Char
  | [] => ([], [])
  | c :: rest =>
    match digitOf? c with
    | some d => let (ds, tail) := takeDigits rest; (d :: ds, tail)
    | none => ([], c :: rest)

namespace Binary64

def exponentOf? : List Char → Option Int
  | [] => some 0
  | e :: rest =>
    if e = 'e' ∨ e = 'E' then
      let (negative, body) := match rest with
        | '-' :: tail => (true, tail)
        | '+' :: tail => (false, tail)
        | tail => (false, tail)
      match takeDigits body with
      | ([], _) => none
      | (ds, []) => let n : Int := digitsValue ds; some (if negative then -n else n)
      | (_, _ :: _) => none
    else none

def unsignedOf? (negative : Bool) (text : List Char) : Option Binary64 :=
  let lower := text.map Char.toLower
  if lower = "inf".toList ∨ lower = "infinity".toList then some (.infinite negative)
  else if lower = "nan".toList then some .nan
  else
    let (whole, rest) := takeDigits text
    let (fraction, tail) := match rest with
      | '.' :: more => takeDigits more
      | more => ([], more)
    if whole.isEmpty && fraction.isEmpty then none
    else (exponentOf? tail).map fun exponent =>
      ofDecimal negative (digitsValue (whole ++ fraction)) (exponent - fraction.length)

/-- Reads a number: an optional sign, then digits with an optional point among, before or after
them and an optional exponent, or one of the words `inf`, `infinity` and `nan` in any case. -/
def ofText? (text : String) : Option Binary64 :=
  match text.toList with
  | '-' :: rest => unsignedOf? true rest
  | '+' :: rest => unsignedOf? false rest
  | rest => unsignedOf? false rest

end Binary64

def digitsOf? : List Char → Option Nat
  | [] => none
  | cs =>
    match takeDigits cs with
    | (ds, []) => some (Binary64.digitsValue ds)
    | (_, _ :: _) => none

def numeral? (bound : Nat) (text : String) : Option Nat :=
  (match text.toList with
    | '+' :: rest => digitsOf? rest
    | cs => digitsOf? cs).filter (· < bound)

/-- One more than the largest number of 64 bits. -/
def wordBound : Nat := 18446744073709551616

end Walkthrough
