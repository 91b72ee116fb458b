import Walkthrough.Play.Basic
import Walkthrough.Settings.Run

/-!
Repeated probing: an assertion is tried again until it holds or its time is up, and then the last
observation counts.
-/
namespace Walkthrough

/-- What came of one probe. -/
inductive Probe where
  | holds
  | fails (observed : String)
deriving DecidableEq, Repr

def Probe.ofBool (holds : Bool) (observed : String) : Probe :=
  if holds then .holds else .fails observed

/-- How long to probe, and how long to wait between two probes, in milliseconds. -/
structure Expect where
  timeout : Nat
  interval : Nat
deriving DecidableEq, Repr

namespace Expect

def ofSettings (s : RunSettings) : Expect := ⟨s.expectTimeout.millis, s.pollInterval.millis⟩

def withOptions (e : Expect) (options : Option Json) : Expect :=
  match (options.bind (Json.member? "timeout")).bind Json.nat? with
  | some ms => { e with timeout := ms }
  | none => e

def rounds (e : Expect) : Nat := (e.timeout + (e.interval - 1)) / max e.interval 1

def observed? : Except PageFault Probe → Option String
  | .ok .holds => none
  | .ok (.fails observed) => some observed
  | .error fault => some fault.message

/-- Waits, though not past the deadline, and goes on; at the deadline the last observation
counts. -/
def waitOr (deadline interval : Nat) (observed : String) (again : Play (Except String Unit)) :
    Play (Except String Unit) := do
  let now ← Play.clock
  if deadline ≤ now then return .error observed
  else
    Play.sleep (min interval (deadline - now))
    again

/-- Probes up to so many times after the first. When there is no wait left the deadline has come. -/
def probeUntil (deadline interval : Nat) (probe : Play (Except PageFault Probe)) :
    Nat → Play (Except String Unit)
  | 0 => do
    match observed? (← probe) with
    | none => return .ok ()
    | some observed => return .error observed
  | rounds + 1 => do
    match observed? (← probe) with
    | none => return .ok ()
    | some observed =>
      waitOr deadline interval observed (probeUntil deadline interval probe rounds)

/-- Probes for as long as the timeout lets. An interval of 0 is not modelled: the rounds would run out
before the time does. The settings keep the interval above 0. -/
def poll (e : Expect) (probe : Play (Except PageFault Probe)) : Play (Except String Unit) := do
  let now ← Play.clock
  probeUntil (now + e.timeout) e.interval probe e.rounds

end Expect

end Walkthrough
