import Walkthrough.Pattern.Regex

/-!
The search for a match. An expression takes the places of a text where a match may begin to those
where it may end. Sets of places are lists without repetition, from the last place of the text to
the first.
-/
namespace Walkthrough.Pattern

def isWordOf (ascii : Bool) (c : Char) : Bool :=
  if ascii then Unicode.isAsciiWord c else Unicode.isWord c

def Look.holds (before after : Option Char) : Look → Bool
  | .startOfText => before.isNone
  | .endOfText => after.isNone
  | .startOfLine => before.isNone || before == some '\n'
  | .endOfLine => after.isNone || after == some '\n'
  | .startOfAnyLine =>
    before.isNone || before == some '\n' || (before == some '\r' && after != some '\n')
  | .endOfAnyLine =>
    after.isNone || after == some '\r' || (after == some '\n' && before != some '\r')
  | .wordBoundary ascii => before.any (isWordOf ascii) != after.any (isWordOf ascii)
  | .noWordBoundary ascii => before.any (isWordOf ascii) == after.any (isWordOf ascii)
  | .wordStart ascii => !before.any (isWordOf ascii) && after.any (isWordOf ascii)
  | .wordEnd ascii => before.any (isWordOf ascii) && !after.any (isWordOf ascii)
  | .notAfterWord ascii => !before.any (isWordOf ascii)
  | .notBeforeWord ascii => !after.any (isWordOf ascii)

/-- A place in a text: how many characters stand before it, the last of them, and those after it. -/
structure Place where
  index : Nat
  before : Option Char
  after : List Char
deriving DecidableEq, Repr

def Place.past? (test : Char → Bool) (p : Place) : Option Place :=
  match p.after with
  | [] => none
  | c :: rest => if test c then some ⟨p.index + 1, some c, rest⟩ else none

def Place.onwards (index : Nat) (before : Option Char) : List Char → List Place → List Place
  | [], places => ⟨index, before, []⟩ :: places
  | c :: rest, places =>
    Place.onwards (index + 1) (some c) rest (⟨index, before, c :: rest⟩ :: places)

namespace Places

def ofText (text : List Char) : List Place := Place.onwards 0 none text []

def union : List Place → List Place → List Place
  | [], qs => qs
  | ps, [] => ps
  | p :: ps, q :: qs =>
    if p.index = q.index then p :: union ps qs
    else if q.index < p.index then p :: union ps (q :: qs)
    else q :: union (p :: ps) qs
termination_by ps qs => ps.length + qs.length

def without : List Place → List Place → List Place
  | [], _ => []
  | ps, [] => ps
  | p :: ps, q :: qs =>
    if p.index = q.index then without ps qs
    else if q.index < p.index then p :: without ps (q :: qs)
    else without (p :: ps) qs
termination_by ps qs => ps.length + qs.length

def same : List Place → List Place → Bool
  | [], [] => true
  | p :: ps, q :: qs => p.index == q.index && same ps qs
  | _, _ => false

def iterate (step : List Place → List Place) : Nat → List Place → List Place
  | 0, places => places
  | n + 1, places =>
    let next := step places
    if same next places then places else iterate step n next

/-- The places reached in at most so many steps more, where the latest are those that the last step
has added. A step from any other place leads to one that is reached already. -/
def within (step : List Place → List Place) : Nat → List Place → List Place → List Place
  | 0, _, reached => reached
  | n + 1, latest, reached =>
    let added := without (step latest) reached
    if added.isEmpty then reached else within step n added (union added reached)

end Places

namespace Regex

mutual

/-- Where matches end that begin at one of the given places. Repetition without a bound adds a place
in each round that counts, so it is done after as many rounds as there are places. -/
def reach (rounds : Nat) : Regex → List Place → List Place
  | .empty, places => places
  | .literal cs, places => cs.foldl (fun places c => places.filterMap (·.past? (· == c))) places
  | .set _ s, places => places.filterMap (·.past? s.contains)
  | .look l, places => places.filter fun p => l.holds p.before p.after.head?
  | .times r min max _, places =>
    let start := Places.iterate (reach rounds r) min places
    Places.within (reach rounds r) ((max.map (· - min)).getD rounds) start start
  | .group _ r, places => reach rounds r places
  | .seq rs, places => reachInTurn rounds rs places
  | .alt rs, places => reachByAny rounds rs places

def reachInTurn (rounds : Nat) : List Regex → List Place → List Place
  | [], places => places
  | r :: rs, places => reachInTurn rounds rs (reach rounds r places)

def reachByAny (rounds : Nat) : List Regex → List Place → List Place
  | [], _ => []
  | r :: rs, places => Places.union (reach rounds r places) (reachByAny rounds rs places)

end

def matchesIn (r : Regex) (text : String) : Bool :=
  let places := Places.ofText text.toList
  !(r.reach places.length places).isEmpty

end Regex

end Walkthrough.Pattern
