import Walkthrough.Context
import Walkthrough.Play.Call
import Walkthrough.Report.RunId

/-!
Plays: programs that drive a page. A play is a tree of requests, each with the play that follows
every possible answer, so that what a play does depends on its answers alone. A play that is given
a deadline is the same tree with the deadline at every request.
-/
namespace Walkthrough

/-- What a play asks of the world. Only calls and sleeping take time. -/
inductive Request where
  | call (c : Call)
  | sleep (ms : Nat)
  /-- The time in milliseconds. -/
  | clock
  | context
  | keep (c : Context)
  | newId
deriving BEq, Repr

abbrev Request.Answer : Request → Type
  | .call c => c.Answer
  | .sleep _ => Unit
  | .clock => Nat
  | .context => Context
  | .keep _ => Unit
  | .newId => RunId

inductive Play (α : Type) where
  | done (a : α)
  /-- The play breaks off without a result. -/
  | crash
  | ask (r : Request) (next : r.Answer → Play α)
  /-- A request that is given up at the deadline when it is not answered by then. -/
  | askBy (deadline : Nat) (r : Request) (next : Option r.Answer → Play α)

namespace Play

variable {α β : Type}

def bind : Play α → (α → Play β) → Play β
  | .done a, next => next a
  | .crash, _ => .crash
  | .ask r rest, next => .ask r fun answer => (rest answer).bind next
  | .askBy deadline r rest, next => .askBy deadline r fun answer => (rest answer).bind next

instance : Monad Play where
  pure := .done
  bind := bind

def request (r : Request) : Play r.Answer := .ask r .done

def call (c : Call) : Play c.Answer := request (.call c)

def sleep (ms : Nat) : Play Unit := request (.sleep ms)

def clock : Play Nat := request .clock

def context : Play Context := request .context

def keep (c : Context) : Play Unit := request (.keep c)

def newId : Play RunId := request .newId

/-- The play as far as it comes by a deadline. Of two deadlines the earlier counts, and of two equal
ones the inner. -/
def within (deadline : Nat) : Play α → Play (Option α)
  | .done a => .done (some a)
  | .crash => .crash
  | .ask r next => .askBy deadline r fun
    | some answer => (next answer).within deadline
    | none => .done none
  | .askBy earlier r next =>
    if earlier ≤ deadline then .askBy earlier r fun answer => (next answer).within deadline
    else .askBy deadline r fun
      | some answer => (next (some answer)).within deadline
      | none => .done none

def limited (limit : Nat) (p : Play α) : Play (Option α) := do
  let now ← clock
  p.within (now + limit)

end Play

abbrev Attempt (ε α : Type) := ExceptT ε Play α

namespace Attempt

def ofPlay {ε α : Type} (p : Play α) : Attempt ε α := ExceptT.lift p

def result {ε δ α : Type} (a : Attempt ε α) : Attempt δ (Except ε α) := ExceptT.lift a.run

end Attempt

end Walkthrough
