import Walkthrough.Handler.Registry
import Walkthrough.Number.Decimal

/-!
Ready-made handlers that keep, count and compare values of the context, or fail on purpose.
-/
namespace Walkthrough.Stock

def set (name : String) : ActionHandler := fun step => do
  let c ← Attempt.ofPlay Play.context
  Attempt.ofPlay (Play.keep (c.set name (step.data.getD .null)))

/-- Counts up under a name, from zero if there is no number of 32 bits yet. A count past 32 bits
breaks the play off. -/
def count (name : String) : ActionHandler := fun _ => do
  let c ← Attempt.ofPlay Play.context
  let n := ((c.text? name).bind (numeral? 4294967296)).getD 0
  if n + 1 < 4294967296 then Attempt.ofPlay (Play.keep (c.set name (Json.ofNat (n + 1))))
  else Attempt.ofPlay Play.crash

def url (name : String) : ActionHandler := fun _ => do
  let address ← Handler.call .url
  let c ← Attempt.ofPlay Play.context
  Attempt.ofPlay (Play.keep (c.set name (.string address)))

def remove (name : String) : ActionHandler := fun _ => do
  let c ← Attempt.ofPlay Play.context
  Attempt.ofPlay (Play.keep (c.remove name))

def sleep (ms : Nat) : ActionHandler := fun _ => Attempt.ofPlay (Play.sleep ms)

def crash : ActionHandler := fun _ => Attempt.ofPlay Play.crash

def fail (message : String) (outer : Option String) : Attempt Trouble Unit :=
  throw (match outer with
    | some outer => (Trouble.mk message []).inside outer
    | none => ⟨message, []⟩)

def pass : ValidationHandler := fun _ _ => return ()

def equals (name : String) : ValidationHandler := fun v _ => do
  let c ← Attempt.ofPlay Play.context
  let stored := (c.text? name).getD ""
  if stored = v.dataText then return ()
  else Handler.fail s!"{name} is {stored}"

def mark (name : String) : ValidationHandler := fun v _ => do
  let c ← Attempt.ofPlay Play.context
  Attempt.ofPlay (Play.keep (c.set name (.string (v.dataText))))

def scope : ValidationHandler := fun _ s =>
  let target := (s.target.map Target.display).getD "none"
  Handler.fail s!"target={target} timeout={s.expect.timeout} poll={s.expect.interval}"

end Walkthrough.Stock
