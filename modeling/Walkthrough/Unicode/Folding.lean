import Walkthrough.Unicode.CodeSet
import Walkthrough.Unicode.FoldTable

/-!
Simple case folding: characters that differ in case alone fold to the same character.
-/
namespace Walkthrough.Unicode

/-- One run of the folding table: `count` code points `step` apart, and the distance they move. -/
structure FoldRun where
  first : Nat
  step : Nat
  count : Nat
  shift : Int
deriving Repr

namespace FoldRun

def ofField (cs : List Char) : FoldRun :=
  let (first, rest) := splitAtChar '/' cs
  let (step, rest) := splitAtChar '/' rest
  let (count, shift) := splitAtChar '/' rest
  let distance : Int := match shift with
    | '-' :: digits => -(hexValue digits : Int)
    | digits => hexValue digits
  ⟨hexValue first, hexValue step, hexValue count, distance⟩

/-- The code points of a run, each with the one that it folds to. -/
def pairs (r : FoldRun) : List (Nat × Nat) :=
  (List.range r.count).map fun n =>
    let code := r.first + n * r.step
    (code, (code + r.shift).toNat)

end FoldRun

def foldTable : List FoldRun := (fields foldRuns).map FoldRun.ofField

def foldPairs : List (Nat × Nat) := foldTable.flatMap FoldRun.pairs

namespace CodeSet

def foldImages (s : CodeSet) : CodeSet :=
  .ofSpans ((foldPairs.filter fun (code, _) => s.hasCode code).map fun (_, image) => (image, image))

def foldSources (s : CodeSet) : CodeSet :=
  .ofSpans ((foldPairs.filter fun (_, image) => s.hasCode image).map fun (code, _) => (code, code))

def folded (s : CodeSet) : CodeSet :=
  let withImages := s.union s.foldImages
  withImages.union withImages.foldSources

def asciiFolded (s : CodeSet) : CodeSet :=
  .unionAll [s,
    .ofSpans ((s.intersection (range 0x41 0x5A)).spans.toList.map fun (a, b) => (a + 32, b + 32)),
    .ofSpans ((s.intersection (range 0x61 0x7A)).spans.toList.map fun (a, b) => (a - 32, b - 32))]

end CodeSet

end Walkthrough.Unicode
