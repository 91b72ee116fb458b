import Walkthrough.Play.Basic

/-!
The performance of a play on a page. A page serves a call by a delay, an answer and its next state;
time passes only by delays and by sleeping.
-/
namespace Walkthrough

structure Service (σ : Type) (c : Call) where
  delay : Nat := 0
  answer : c.Answer
  /-- The state once the call is answered. -/
  after : σ
  /-- The state when the call is given up before that. -/
  abandoned : σ

structure Page (σ : Type) where
  serve : (c : Call) → σ → Service σ c

abbrev Opener (σ : Type) := Nat → Except Trouble σ

structure World (σ : Type) where
  page : σ
  now : Nat := 0
  context : Context := {}
  /-- How many run identifiers were given out. -/
  ids : Nat := 0

structure TimedCall where
  time : Nat
  call : Call
deriving BEq, Repr

/-- What came of a play: its result, unless it crashed, the calls that it made, in order, and the
world that it left. -/
structure Course (σ α : Type) where
  result : Option α
  calls : List TimedCall
  world : World σ

namespace World

variable {σ : Type}

def answer (page : Page σ) (w : World σ) : (r : Request) → r.Answer × World σ
  | .call c =>
    let s := page.serve c w.page
    (s.answer, { w with page := s.after, now := w.now + s.delay })
  | .sleep ms => ((), { w with now := w.now + ms })
  | .clock => (w.now, w)
  | .context => (w.context, w)
  | .keep c => ((), { w with context := c })
  | .newId => (.ofRandom w.ids, { w with ids := w.ids + 1 })

def delay (page : Page σ) (w : World σ) : Request → Nat
  | .call c => (page.serve c w.page).delay
  | .sleep ms => ms
  | _ => 0

def giveUp (page : Page σ) (w : World σ) (deadline : Nat) : Request → World σ
  | .call c => { w with page := (page.serve c w.page).abandoned, now := max w.now deadline }
  | _ => { w with now := max w.now deadline }

def callOf (w : World σ) : Request → List TimedCall
  | .call c => [⟨w.now, c⟩]
  | _ => []

end World

namespace Play

variable {σ α : Type}

/-- A play whose first request was answered or given up, with the call that it made and the world
that it left. A play that is over asks nothing. -/
def advance? (page : Page σ) (w : World σ) : Play α → Option (Play α × List TimedCall × World σ)
  | .done _ => none
  | .crash => none
  | .ask r next =>
    let (answer, after) := w.answer page r
    some (next answer, w.callOf r, after)
  | .askBy deadline r next =>
    if w.now + w.delay page r ≤ deadline then
      let (answer, after) := w.answer page r
      some (next (some answer), w.callOf r, after)
    else some (next none, w.callOf r, w.giveUp page deadline r)

def value? : Play α → Option α
  | .done a => some a
  | _ => none

/-- Performs a play. An answer that comes at the very deadline is in time. -/
def perform (page : Page σ) : Play α → World σ → Course σ α
  | .done a, w => ⟨some a, [], w⟩
  | .crash, w => ⟨none, [], w⟩
  | .ask r next, w =>
    let (answer, after) := w.answer page r
    let rest := (next answer).perform page after
    { rest with calls := w.callOf r ++ rest.calls }
  | .askBy deadline r next, w =>
    if w.now + w.delay page r ≤ deadline then
      let (answer, after) := w.answer page r
      let rest := (next (some answer)).perform page after
      { rest with calls := w.callOf r ++ rest.calls }
    else
      let rest := (next none).perform page (w.giveUp page deadline r)
      { rest with calls := w.callOf r ++ rest.calls }

end Play

end Walkthrough
