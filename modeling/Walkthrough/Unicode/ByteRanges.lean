import Walkthrough.Unicode.CodeSet

/-!
Spans of code points by their bytes in UTF-8. A span is cut into pieces, each of which is made up of
all texts whose first byte is in a first range, whose second is in a second, and so on.
-/
namespace Walkthrough.Unicode

structure ByteRange where
  first : UInt8
  last : UInt8
deriving DecidableEq, Repr, Inhabited

def lastOfLength : List Nat := [0x7F, 0x7FF, 0xFFFF]

/-- How many code points share all bytes but the last, the last two and the last three. -/
def blockSizes : List Nat := [0x40, 0x1000, 0x40000]

/-- Where a span has to be cut because its ends differ in a byte, although not all values occur in
the bytes after that one. -/
def cutAtBlock? (low high : Nat) : List Nat → Option Nat
  | [] => none
  | size :: rest =>
    if low / size = high / size then cutAtBlock? low high rest
    else if low % size ≠ 0 then some ((low / size + 1) * size)
    else if high % size ≠ size - 1 then some (high / size * size)
    else cutAtBlock? low high rest

def cut? (low high : Nat) : Option Nat :=
  match lastOfLength.find? fun last => low ≤ last && last < high with
  | some last => some (last + 1)
  | none => if high < 0x80 then none else cutAtBlock? low high blockSizes

def bytesOf (n : Nat) : List UInt8 := String.utf8EncodeChar (Char.ofNat n)

def rangesBetween (low high : Nat) : List ByteRange :=
  List.zipWith ByteRange.mk (bytesOf low) (bytesOf high)

def pieces (low high : Nat) : List (List ByteRange) :=
  match cut? low high with
  | some start =>
    if low < start ∧ start ≤ high then pieces low (start - 1) ++ pieces start high
    else [rangesBetween low high]
  | none => [rangesBetween low high]
termination_by high - low

def byteRanges (low high : Nat) : List (List ByteRange) :=
  if low < 0xE000 ∧ 0xD7FF < high then
    (if low ≤ 0xD7FF then pieces low 0xD7FF else []) ++
      (if 0xE000 ≤ high then pieces 0xE000 high else [])
  else pieces low high

def CodeSet.byteRanges (s : CodeSet) : List (List ByteRange) :=
  s.spans.toList.flatMap fun (low, high) => Unicode.byteRanges low high

end Walkthrough.Unicode
