/-!
Sets of code points as spans in ascending order that neither meet nor touch, with the operations on
sets, and the written form of spans in the tables.
-/
namespace Walkthrough.Unicode

def hexDigit? (c : Char) : Option Nat :=
  if '0' ≤ c ∧ c ≤ '9' then some (c.toNat - '0'.toNat)
  else if 'a' ≤ c ∧ c ≤ 'f' then some (c.toNat - 'a'.toNat + 10)
  else if 'A' ≤ c ∧ c ≤ 'F' then some (c.toNat - 'A'.toNat + 10)
  else none

def hexValue (cs : List Char) : Nat := cs.foldl (fun n c => 16 * n + (hexDigit? c).getD 0) 0

def splitAtChar (mark : Char) (cs : List Char) : List Char × List Char :=
  (cs.takeWhile (· != mark), (cs.dropWhile (· != mark)).drop 1)

def fields (lines : List String) : List (List Char) :=
  lines.flatMap fun line => (line.splitOn " ").map String.toList

abbrev Span := Nat × Nat

structure CodeSet where
  spans : Array Span
deriving BEq, Repr, Inhabited

namespace CodeSet

def empty : CodeSet := ⟨#[]⟩

def lastCode : Nat := 0x10FFFF

def all : CodeSet := ⟨#[(0, lastCode)]⟩

def range (low high : Nat) : CodeSet := ⟨#[(low, high)]⟩

def single (c : Char) : CodeSet := range c.toNat c.toNat

def join (done : List Span) : List Span → List Span
  | [] => done.reverse
  | (low, high) :: rest =>
    match done with
    | [] => join [(low, high)] rest
    | (first, last) :: before =>
      if low ≤ last + 1 then join ((first, max last high) :: before) rest
      else join ((low, high) :: done) rest

def ofSpans (spans : List Span) : CodeSet :=
  ⟨(join [] (spans.mergeSort fun a b => a.1 < b.1 || (a.1 == b.1 && a.2 ≤ b.2))).toArray⟩

/-- A span of the tables: one code point, or two with a hyphen between them; a step after a slash
picks single code points from it. -/
def spansOf (cs : List Char) : List Span :=
  match splitAtChar '-' cs with
  | (low, []) => [(hexValue low, hexValue low)]
  | (low, rest) =>
    let low := hexValue low
    match splitAtChar '/' rest with
    | (high, []) => [(low, hexValue high)]
    | (high, step) =>
      let step := hexValue step
      (List.range ((hexValue high - low) / step + 1)).map fun n => (low + n * step, low + n * step)

def ofTable (lines : List String) : CodeSet := ofSpans ((fields lines).flatMap spansOf)

def search (s : CodeSet) (n low high : Nat) : Nat → Bool
  | 0 => false
  | tries + 1 =>
    if low < high then
      let mid := (low + high) / 2
      match s.spans[mid]? with
      | none => false
      | some (first, last) =>
        if n < first then s.search n low mid tries
        else if last < n then s.search n (mid + 1) high tries
        else true
    else false

def hasCode (s : CodeSet) (n : Nat) : Bool :=
  s.search n 0 s.spans.size (s.spans.size.log2 + 2)

def contains (s : CodeSet) (c : Char) : Bool := s.hasCode c.toNat

def isEmpty (s : CodeSet) : Bool := s.spans.isEmpty

def isAscii (s : CodeSet) : Bool := s.spans.all fun (_, high) => high < 128

def onlyMember? (s : CodeSet) : Option Char :=
  match s.spans.toList with
  | [(low, high)] => if low = high then some (Char.ofNat low) else none
  | _ => none

def union (a b : CodeSet) : CodeSet := ofSpans (a.spans.toList ++ b.spans.toList)

def unionAll (sets : List CodeSet) : CodeSet :=
  ofSpans (sets.flatMap fun s => s.spans.toList)

def meet : List Span → List Span → List Span
  | [], _ => []
  | _, [] => []
  | (a, b) :: s, (c, d) :: t =>
    let rest := if b < d then meet s ((c, d) :: t) else meet ((a, b) :: s) t
    if max a c ≤ min b d then (max a c, min b d) :: rest else rest
termination_by s t => s.length + t.length

def intersection (a b : CodeSet) : CodeSet := ⟨(meet a.spans.toList b.spans.toList).toArray⟩

def gaps (start : Nat) : List Span → List Span
  | [] => if start ≤ lastCode then [(start, lastCode)] else []
  | (low, high) :: rest =>
    if start < low then (start, low - 1) :: gaps (high + 1) rest else gaps (high + 1) rest

def difference (a b : CodeSet) : CodeSet :=
  ⟨(meet a.spans.toList (gaps 0 b.spans.toList)).toArray⟩

def symmetricDifference (a b : CodeSet) : CodeSet :=
  (a.union b).difference (a.intersection b)

def nextChar (n : Nat) : Nat := if n = 0xD7FF then 0xE000 else n + 1

def priorChar (n : Nat) : Nat := if n = 0xE000 then 0xD7FF else n - 1

/-- The spans between those of a set. When only surrogates lie between two spans, their ends that
face each other make up a span: so a set of all characters in two spans does not have an empty
complement. -/
def between : List Span → List Span
  | (_, high) :: (low, top) :: rest =>
    let first := nextChar high
    let last := priorChar low
    (min first last, max first last) :: between ((low, top) :: rest)
  | [(_, high)] => if high < lastCode then [(nextChar high, lastCode)] else []
  | [] => []

def complement (s : CodeSet) : CodeSet :=
  match s.spans.toList with
  | [] => all
  | (low, high) :: rest =>
    ⟨((if 0 < low then [(0, priorChar low)] else []) ++ between ((low, high) :: rest)).toArray⟩

end CodeSet

end Walkthrough.Unicode
