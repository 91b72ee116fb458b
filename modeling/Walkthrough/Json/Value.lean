import Walkthrough.Number.Decimal

/-!
JSON values. Numbers keep the form they were written in: a whole number of word size, or a binary64
number. The members of an object that was read or built here are in ascending order of their names;
records that a library type is written to keep the order of its fields.
-/
namespace Walkthrough

/-- The whole numbers that a signed or an unsigned word of 64 bits holds. -/
def FitsWord (n : Int) : Prop := -9223372036854775808 ≤ n ∧ n ≤ 18446744073709551615

instance (n : Int) : Decidable (FitsWord n) := inferInstanceAs (Decidable (_ ∧ _))

inductive JsonNumber where
  | whole (n : Int) (fits : FitsWord n)
  | real (negative : Bool) (size : Magnitude)
deriving DecidableEq, Repr

namespace JsonNumber

def toBinary64 : JsonNumber → Binary64
  | .whole n _ => .nearest (n < 0) n.natAbs 1
  | .real negative size => .finite negative size

end JsonNumber

inductive Json where
  | null
  | bool (b : Bool)
  | number (n : JsonNumber)
  | string (s : String)
  | array (items : List Json)
  | object (members : List (String × Json))
deriving BEq, Repr

namespace Json

instance : Inhabited Json := ⟨.null⟩

/-- A natural number as JSON; one that no word holds becomes a binary64 number. -/
def ofNat (n : Nat) : Json :=
  if fits : FitsWord n then .number (.whole n fits)
  else match Binary64.nearest false n 1 with
    | .finite negative size => .number (.real negative size)
    | _ => .null

def ofInt (n : Int) : Json :=
  if fits : FitsWord n then .number (.whole n fits) else .null

def ofBinary64 : Binary64 → Json
  | .finite negative size => .number (.real negative size)
  | _ => .null

def insertMember (name : String) (value : Json) : List (String × Json) → List (String × Json)
  | [] => [(name, value)]
  | (other, old) :: rest =>
    if name < other then (name, value) :: (other, old) :: rest
    else if name = other then (name, value) :: rest
    else (other, old) :: insertMember name value rest

/-- The members in order of their names; of equal names the last counts. -/
def sortMembers (members : List (String × Json)) : List (String × Json) :=
  members.foldl (fun sorted (name, value) => insertMember name value sorted) []

def objectOf (members : List (String × Json)) : Json := .object (sortMembers members)

def ofOption {α : Type} (write : α → Json) : Option α → Json
  | some a => write a
  | none => .null

def member? (name : String) : Json → Option Json
  | .object members => members.lookup name
  | _ => none

def string? : Json → Option String
  | .string s => some s
  | _ => none

def bool? : Json → Option Bool
  | .bool b => some b
  | _ => none

def array? : Json → Option (List Json)
  | .array items => some items
  | _ => none

def members? : Json → Option (List (String × Json))
  | .object members => some members
  | _ => none

def nat? : Json → Option Nat
  | .number (.whole n _) => if 0 ≤ n then some n.toNat else none
  | _ => none

def binary64? : Json → Option Binary64
  | .number n => some n.toBinary64
  | _ => none

end Json

end Walkthrough
