import Walkthrough.Unicode.Folding
import Walkthrough.Unicode.Property

/-!
Regular expressions. They are put together by `repeated`, `concatenation` and `alternation`, which
keep them small: neighbouring literals are one literal, alternatives that are single characters are
one set, and what all alternatives begin with is written once.
-/
namespace Walkthrough.Pattern

open Unicode (CodeSet)

inductive Look where
  | startOfText
  | endOfText
  | startOfLine
  | endOfLine
  /-- Lines that end in a carriage return, a line feed or the two together. -/
  | startOfAnyLine
  | endOfAnyLine
  /-- Places at words, whose characters may be those of ASCII alone. -/
  | wordBoundary (ascii : Bool)
  | noWordBoundary (ascii : Bool)
  | wordStart (ascii : Bool)
  | wordEnd (ascii : Bool)
  | notAfterWord (ascii : Bool)
  | notBeforeWord (ascii : Bool)
deriving DecidableEq, Repr

inductive Regex where
  | empty
  /-- A text of one character or more. -/
  | literal (text : List Char)
  /-- One character of a set, which is one of bytes where Unicode is switched off. -/
  | set (ofBytes : Bool) (s : CodeSet)
  | look (l : Look)
  /-- At least `min` times, and at most `max` times if there is such a bound. -/
  | times (r : Regex) (min : Nat) (max : Option Nat) (isLazy : Bool)
  /-- A group that keeps what it matched, by its number. -/
  | group (number : Nat) (r : Regex)
  | seq (rs : List Regex)
  | alt (rs : List Regex)

namespace Regex

mutual

/-- The two are written the same. -/
def same : Regex → Regex → Bool
  | .empty, .empty => true
  | .literal a, .literal b => a == b
  | .set x s, .set y t => x == y && s == t
  | .look a, .look b => a == b
  | .times r min max isLazy, .times s low high lazily =>
    min == low && max == high && isLazy == lazily && same r s
  | .group n r, .group m s => n == m && same r s
  | .seq rs, .seq ss => sameList rs ss
  | .alt rs, .alt ss => sameList rs ss
  | _, _ => false

def sameList : List Regex → List Regex → Bool
  | [], [] => true
  | r :: rs, s :: ss => same r s && sameList rs ss
  | _, _ => false

end

mutual

def isEmptyAtMost : Regex → Bool
  | .empty | .look _ => true
  | .literal _ | .set _ _ => false
  | .times r _ _ _ | .group _ r => isEmptyAtMost r
  | .seq rs | .alt rs => areEmptyAtMost rs

def areEmptyAtMost : List Regex → Bool
  | [] => true
  | r :: rs => isEmptyAtMost r && areEmptyAtMost rs

end

mutual

def size : Regex → Nat
  | .times r _ _ _ | .group _ r => size r + 1
  | .seq rs | .alt rs => sizeAll rs + 1
  | _ => 1

def sizeAll : List Regex → Nat
  | [] => 0
  | r :: rs => size r + sizeAll rs

end

/-- One character of a set. A set of one is a literal, and all empty sets are alike. -/
def ofSet (ofBytes : Bool) (s : CodeSet) : Regex :=
  if s.isEmpty then .set true .empty
  else match s.onlyMember? with
    | some c => .literal [c]
    | none => .set ofBytes s

/-- Repetition. Where only the empty text matches, once is as good as many times. -/
def repeated (r : Regex) (min : Nat) (max : Option Nat) (isLazy : Bool) : Regex :=
  let (min, max) :=
    if r.isEmptyAtMost then (Nat.min min 1, some ((max.map (Nat.min · 1)).getD 1)) else (min, max)
  if max = some 0 then .empty
  else if min = 1 ∧ max = some 1 then r
  else .times r min max isLazy

def items : Regex → List Regex
  | .empty => []
  | .seq rs => rs
  | r => [r]

def joinLiterals : List Regex → List Regex
  | [] => []
  | .literal a :: rest =>
    match joinLiterals rest with
    | .literal b :: more => .literal (a ++ b) :: more
    | more => .literal a :: more
  | r :: rest => r :: joinLiterals rest

def concatenation (rs : List Regex) : Regex :=
  match joinLiterals (rs.flatMap items) with
  | [] => .empty
  | [r] => r
  | rs => .seq rs

def alternatives : Regex → List Regex
  | .alt rs => rs
  | r => [r]

def singleChars? : List Regex → Option (List Char)
  | [] => some []
  | .literal [c] :: rest => (singleChars? rest).map (c :: ·)
  | _ => none

def sets? : List Regex → Option (List CodeSet)
  | [] => some []
  | .set _ s :: rest => (sets? rest).map (s :: ·)
  | _ => none

/-- How many parts the sequences have in common at their beginnings. -/
def commonPrefix (first : List Regex) : List Regex → Nat
  | [] => first.length
  | .seq rs :: rest =>
    let shared := ((first.zip rs).takeWhile fun (r, s) => same r s).length
    min shared (commonPrefix first rest)
  | _ => 0

def dropItems (n : Nat) : Regex → Regex
  | .seq rs => concatenation (rs.drop n)
  | r => r

/-- Alternatives, of which each round takes off what they all begin with. -/
def alternationWithin : Nat → List Regex → Regex
  | fuel, rs =>
    let rs := rs.flatMap alternatives
    match rs with
    | [] => .set true .empty
    | [r] => r
    | first :: rest =>
      match singleChars? rs, sets? rs with
      | some cs, _ => ofSet false (.unionAll (cs.map CodeSet.single))
      | none, some sets => ofSet false (.unionAll sets)
      | none, none =>
        match fuel, first with
        | fuel + 1, .seq parts =>
          let shared := commonPrefix parts rest
          if shared = 0 then .alt rs
          else
            let others := alternationWithin fuel (rs.map (dropItems shared))
            concatenation (parts.take shared ++ [others])
        | _, _ => .alt rs

def alternation (rs : List Regex) : Regex := alternationWithin (sizeAll rs) rs

mutual

/-- The least number of characters that a match has; sets without a member make none. -/
def leastLength? : Regex → Option Nat
  | .empty | .look _ => some 0
  | .literal text => some text.length
  | .set _ s => if s.isEmpty then none else some 1
  | .times r min _ _ => (leastLength? r).map (· * min)
  | .group _ r => leastLength? r
  | .seq rs => leastTotal? rs
  | .alt rs => leastOf? rs

def leastTotal? : List Regex → Option Nat
  | [] => some 0
  | r :: rs => do return (← leastLength? r) + (← leastTotal? rs)

def leastOf? : List Regex → Option Nat
  | [] => none
  | [r] => leastLength? r
  | r :: rs => do return min (← leastLength? r) (← leastOf? rs)

end

mutual

def beginsWith (l : Look) : Regex → Bool
  | .look k => k == l
  | .times r min _ _ => 0 < min && beginsWith l r
  | .group _ r => beginsWith l r
  | .seq rs => someBegins l rs
  | .alt rs => !rs.isEmpty && allBegin l rs
  | _ => false

def someBegins (l : Look) : List Regex → Bool
  | [] => false
  | r :: rs => beginsWith l r || (isEmptyAtMost r && someBegins l rs)

def allBegin (l : Look) : List Regex → Bool
  | [] => true
  | r :: rs => beginsWith l r && allBegin l rs

end

mutual

def endsWith (l : Look) : Regex → Bool
  | .look k => k == l
  | .times r min _ _ => 0 < min && endsWith l r
  | .group _ r => endsWith l r
  | .seq rs => someEnds l rs
  | .alt rs => !rs.isEmpty && allEnd l rs
  | _ => false

def someEnds (l : Look) : List Regex → Bool
  | [] => false
  | r :: rs => someEnds l rs || (areEmptyAtMost rs && endsWith l r)

def allEnd (l : Look) : List Regex → Bool
  | [] => true
  | r :: rs => endsWith l r && allEnd l rs

end

end Regex

end Walkthrough.Pattern
