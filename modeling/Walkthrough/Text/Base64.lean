/-!
Base64 in the standard alphabet with required padding. Reading accepts canonical text only: full
groups of four symbols, padding where the last group is short, and no stray bits in the last
symbol.
-/
namespace Walkthrough.Base64

def symbol (n : Nat) : UInt8 :=
  if n < 26 then UInt8.ofNat (65 + n)
  else if n < 52 then UInt8.ofNat (97 + (n - 26))
  else if n < 62 then UInt8.ofNat (48 + (n - 52))
  else if n = 62 then 43
  else 47

def value? (b : UInt8) : Option Nat :=
  let n := b.toNat
  if 65 ≤ n ∧ n ≤ 90 then some (n - 65)
  else if 97 ≤ n ∧ n ≤ 122 then some (n - 97 + 26)
  else if 48 ≤ n ∧ n ≤ 57 then some (n - 48 + 52)
  else if n = 43 then some 62
  else if n = 47 then some 63
  else none

def pad : UInt8 := 61

def encode : List UInt8 → List UInt8
  | a :: b :: c :: rest =>
    symbol (a.toNat / 4) :: symbol (a.toNat % 4 * 16 + b.toNat / 16)
      :: symbol (b.toNat % 16 * 4 + c.toNat / 64) :: symbol (c.toNat % 64) :: encode rest
  | [a, b] =>
    [symbol (a.toNat / 4), symbol (a.toNat % 4 * 16 + b.toNat / 16), symbol (b.toNat % 16 * 4), pad]
  | [a] => [symbol (a.toNat / 4), symbol (a.toNat % 4 * 16), pad, pad]
  | [] => []

def text (bytes : List UInt8) : String :=
  String.ofList ((encode bytes).map fun b => Char.ofNat b.toNat)

/-- Why a text is no base64. Offsets count bytes. -/
inductive Fault where
  | badByte (offset : Nat) (byte : UInt8)
  | badLength
  | badLastSymbol (offset : Nat) (byte : UInt8)
  | badPadding
deriving DecidableEq, Repr

def Fault.message : Fault → String
  | .badByte offset byte => s!"Invalid byte {byte.toNat}, offset {offset}."
  | .badLength => "Encoded text cannot have a 6-bit remainder."
  | .badLastSymbol offset byte => s!"Invalid last symbol {byte.toNat}, offset {offset}."
  | .badPadding => "Invalid padding"

/-- The values of the symbols before the padding. Padding may only follow the second or third
symbol of a group, and nothing but padding may follow it: the first padding symbol is blamed. -/
def symbols (offset : Nat) (firstPad : Option Nat) : List UInt8 → Except Fault (List Nat)
  | [] => .ok []
  | b :: rest =>
    if b = pad then
      if offset % 4 < 2 then .error (.badByte (firstPad.getD offset) pad)
      else symbols (offset + 1) (some (firstPad.getD offset)) rest
    else match firstPad, value? b with
      | some first, _ => .error (.badByte first pad)
      | none, none => .error (.badByte offset b)
      | none, some n => (symbols (offset + 1) none rest).map (n :: ·)

def bytesOf : List Nat → List UInt8
  | a :: b :: c :: d :: rest =>
    UInt8.ofNat (a * 4 + b / 16) :: UInt8.ofNat (b % 16 * 16 + c / 4)
      :: UInt8.ofNat (c % 4 * 64 + d) :: bytesOf rest
  | [a, b, c] => [UInt8.ofNat (a * 4 + b / 16), UInt8.ofNat (b % 16 * 16 + c / 4)]
  | [a, b] => [UInt8.ofNat (a * 4 + b / 16)]
  | _ => []

def hasStrayBits : List Nat → Bool
  | _ :: _ :: _ :: _ :: rest => hasStrayBits rest
  | [_, _, c] => c % 4 != 0
  | [_, b] => b % 16 != 0
  | _ => false

/-- A text with one symbol too many is blamed on its last byte if that is no symbol at all. -/
def remainderFault (text : List UInt8) : Fault :=
  match text.getLast? with
  | some b => if b ≠ pad ∧ (value? b).isNone then .badByte (text.length - 1) b else .badLength
  | none => .badLength

def decode (text : List UInt8) : Except Fault (List UInt8) :=
  if text.length % 4 = 1 then .error (remainderFault text)
  else do
    let values ← symbols 0 none text
    if text.length % 4 ≠ 0 then .error .badPadding
    else if hasStrayBits values then
      .error (.badLastSymbol (values.length - 1) (text.getD (values.length - 1) 0))
    else .ok (bytesOf values)

end Walkthrough.Base64
