/-!
Binary64 numbers as exact data. A finite number is a sign and a magnitude, a magnitude is a whole
number of units of `2 ^ -1074`, and every operation is computed exactly and then rounded once, to
nearest with halves going to the even neighbour.
-/
namespace Walkthrough

abbrev twoTo (n : Nat) : Nat := Nat.pow 2 n

abbrev tenTo (n : Nat) : Nat := Nat.pow 10 n

/-- The whole number nearest to `n / d`; a half goes to the even neighbour. -/
def roundQuotient (n d : Nat) : Nat :=
  let q := n / d
  let r := n % d
  if 2 * r < d then q
  else if d < 2 * r then q + 1
  else if q % 2 = 0 then q
  else q + 1

/-- A number of `significand * 2 ^ scale` units of `2 ^ -1074`. The significand is full unless the
scale is zero, so each value has one form. -/
structure Magnitude where
  significand : Nat
  scale : Nat
  fits : significand < twoTo 53 ∧ scale ≤ 2045 ∧ (scale = 0 ∨ twoTo 52 ≤ significand)
deriving DecidableEq, Repr

namespace Magnitude

def zero : Magnitude := ⟨0, 0, by decide⟩

instance : Inhabited Magnitude := ⟨zero⟩

def unitsInOne : Nat := twoTo 1074

def units (m : Magnitude) : Nat := m.significand * twoTo m.scale

def ofParts? (significand scale : Nat) : Option Magnitude :=
  if fits : significand < twoTo 53 ∧ scale ≤ 2045 ∧ (scale = 0 ∨ twoTo 52 ≤ significand) then
    some ⟨significand, scale, fits⟩
  else none

def nearest? (n d : Nat) : Option Magnitude :=
  let scaled := n * unitsInOne
  let scale := (scaled / d).log2 + 1 - 53
  let significand := roundQuotient scaled (d * twoTo scale)
  if significand < twoTo 53 then ofParts? significand scale
  else ofParts? (significand / 2) (scale + 1)

def ofNat? (n : Nat) : Option Magnitude := nearest? n 1

def times? (a b : Magnitude) : Option Magnitude :=
  nearest? (a.units * b.units) (unitsInOne * unitsInOne)

def over? (a b : Magnitude) : Option Magnitude := nearest? a.units b.units

def isZero (m : Magnitude) : Bool := m.significand == 0

def isWhole (m : Magnitude) : Bool := m.units % unitsInOne == 0

def floor (m : Magnitude) : Nat := m.units / unitsInOne

end Magnitude

/-- A binary64 number. Both zeros are finite and differ by their sign. -/
inductive Binary64 where
  | finite (negative : Bool) (size : Magnitude)
  | infinite (negative : Bool)
  | nan
deriving DecidableEq, Repr

namespace Binary64

def zero : Binary64 := .finite false .zero
def one : Binary64 := .finite false ⟨twoTo 52, 1022, by decide⟩

instance : Inhabited Binary64 := ⟨zero⟩

def ofMagnitude? (negative : Bool) : Option Magnitude → Binary64
  | some m => .finite negative m
  | none => .infinite negative

def nearest (negative : Bool) (n d : Nat) : Binary64 :=
  ofMagnitude? negative (Magnitude.nearest? n d)

def signedUnits (negative : Bool) (m : Magnitude) : Int :=
  if negative then -(m.units : Int) else m.units

/-- Numbers compare by value: the zeros are equal and a NaN is below nothing. -/
def lt : Binary64 → Binary64 → Bool
  | .nan, _ => false
  | _, .nan => false
  | .infinite a, .infinite b => a && !b
  | .infinite a, .finite _ _ => a
  | .finite _ _, .infinite b => !b
  | .finite a m, .finite b n => signedUnits a m < signedUnits b n

def clamp (low high x : Binary64) : Binary64 :=
  if x.lt low then low else if high.lt x then high else x

end Binary64

end Walkthrough
