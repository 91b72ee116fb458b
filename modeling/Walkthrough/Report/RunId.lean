import Walkthrough.Text.Quoted

/-!
Run identifiers: 128 bits, written as 32 hexadecimal digits in groups of 8, 4, 4, 4 and 12.
-/
namespace Walkthrough

structure RunId where
  bits : BitVec 128
deriving DecidableEq, Repr

namespace RunId

instance : Inhabited RunId := ⟨⟨0⟩⟩

def groupLengths : List Nat := [8, 4, 4, 4, 12]

def hexDigits (n : Nat) : Nat → List Char
  | 0 => []
  | count + 1 => hexDigits (n / 16) count ++ [Text.lowerHexDigit (n % 16)]

def cut : List Nat → List Char → List (List Char)
  | [], _ => []
  | n :: rest, cs => cs.take n :: cut rest (cs.drop n)

def chars (r : RunId) : List Char :=
  List.intercalate ['-'] (cut groupLengths (hexDigits r.bits.toNat 32))

def text (r : RunId) : String := String.ofList r.chars

def ofRandom (n : Nat) : RunId :=
  ⟨BitVec.ofNat 128 (n &&& 0xffffffffffff0fff3fffffffffffffff ||| 0x40008000000000000000)⟩

inductive Fault where
  | badCharacter (c : Char) (index : Nat)
  | badLength (length : Nat)
  | badGroupCount (count : Nat)
  | badGroupLength (group expected length : Nat)
deriving DecidableEq, Repr

def Fault.message : Fault → String
  | .badCharacter c index => s!"invalid character: found `{c}` at {index}"
  | .badLength length => s!"invalid length: found {length}"
  | .badGroupCount count => s!"invalid group count: expected 5, found {count}"
  | .badGroupLength group expected length =>
    s!"invalid group length in group {group}: expected {expected}, found {length}"

def ofDigits (digits : List Char) : RunId := ⟨BitVec.ofNat 128 (Unicode.hexValue digits)⟩

def simple? (cs : List Char) : Option RunId :=
  if cs.length = 32 ∧ cs.all (fun c => (Unicode.hexDigit? c).isSome) then some (ofDigits cs)
  else none

def hyphenated? (cs : List Char) : Option RunId :=
  let digits := cs.filter (· != '-')
  if List.intercalate ['-'] (cut groupLengths digits) = cs then simple? digits else none

def byteLength (cs : List Char) : Nat := cs.foldr (fun c total => c.utf8Size + total) 0

def badCharacter? (offset : Nat) : List Char → Option (Char × Nat)
  | [] => none
  | c :: rest =>
    if (Unicode.hexDigit? c).isSome ∨ c = '-' then badCharacter? (offset + c.utf8Size) rest
    else some (c, offset)

/-- The first of the groups before the last whose length is wrong, else the last. -/
def badGroup (total : Nat) : Nat → List (Nat × Nat) → Fault
  | _, [] => .badGroupLength 4 12 (total - 24)
  | group, (expected, length) :: rest =>
    if expected ≠ length then .badGroupLength group expected length
    else badGroup total (group + 1) rest

def groups (cs : List Char) : List Nat := (cs.splitOn '-').map List.length

def mark : List Char := "urn:uuid:".toList

/-- What stands in braces or after `urn:uuid:`, of which the letters may be of either case. -/
def inner? (cs : List Char) : Option (List Char) :=
  if cs.head? = some '\x7b' ∧ cs.getLast? = some '\x7d' ∧ 2 ≤ cs.length then
    some cs.tail.dropLast
  else if (cs.take mark.length).map Char.toLower = mark then some (cs.drop mark.length)
  else none

def longest : Nat := 45

/-- Why a text in none of the forms is no identifier. Characters are counted from where the groups
begin. -/
def faultOf (cs : List Char) : Fault :=
  let length := byteLength cs
  if longest < length then .badLength length
  else
    let body := (inner? cs).getD cs
    match badCharacter? 0 body with
    | some (c, index) => .badCharacter c index
    | none =>
      let hyphens := body.count '-'
      if hyphens = 0 ∧ (inner? cs).isNone then .badLength length
      else if hyphens ≠ 4 then .badGroupCount (hyphens + 1)
      else badGroup length 0 ((groupLengths.zip (groups body)).take 4)

/-- Reads an identifier: plain digits, hyphenated groups, the latter also in braces or after
`urn:uuid:`. -/
def parse (text : String) : Except Fault RunId :=
  let cs := text.toList
  match (if cs.length = 32 then simple? cs else hyphenated? ((inner? cs).getD cs)) with
  | some r => .ok r
  | none => .error (faultOf cs)

end RunId

end Walkthrough
