import Walkthrough.Unicode.CategoryTable
import Walkthrough.Unicode.CodeSet

/-!
General categories, and what can be printed.
-/
namespace Walkthrough.Unicode

/-- General categories as spans with their two-letter names, in ascending order. -/
def categorySpans : List (String × Nat × Nat) :=
  ((fields categoryRuns).foldl (fun (start, done) cs =>
    let size := hexValue (cs.drop 2)
    (start + size, (String.ofList (cs.take 2), start, start + size - 1) :: done))
    ((0, []) : Nat × List (String × Nat × Nat))).2.reverse

/-- The code points whose category has one of the given names; a name of one letter stands for all
categories that begin with it. -/
def inCategories (names : List String) : CodeSet :=
  .ofSpans (categorySpans.filterMap fun (category, first, last) =>
    if names.any fun name => name.toList.isPrefixOf category.toList then some (first, last)
    else none)

def inCategory (name : String) : CodeSet := inCategories [name]

def unprintable : CodeSet := inCategories ["C", "Z"]

def isPrintable (c : Char) : Bool :=
  if c.toNat < 128 then 32 ≤ c.toNat && c.toNat < 127 else !unprintable.contains c

def numbers : CodeSet := inCategory "N"

def decimalNumbers : CodeSet := inCategory "Nd"

end Walkthrough.Unicode
