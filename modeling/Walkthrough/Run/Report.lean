import Walkthrough.Run.Action
import Walkthrough.Run.Evaluate

/-!
Running a test case. Steps run in order, each once or, when it iterates, once for every element of
its target; the first fault ends the run.
-/
namespace Walkthrough

structure Round where
  softFailures : List SoftFailure := []
  fault : Option StepFault := none
deriving DecidableEq, Repr

namespace Round

def ofFault (f : StepFault) : Round := { fault := some f }

def failed (r : Round) : Bool := r.fault.isSome || !r.softFailures.isEmpty

def afterVerdict (r : Round) : Verdict → Round
  | .passed => r
  | .softFailed failure => { r with softFailures := failure :: r.softFailures }

def entry (index : Nat) (r : Round) : Iteration where
  index := index
  status := .ofFailure r.failed
  error := r.fault.map StepFault.report
  softFailures := r.softFailures

end Round

structure StepCourse where
  softFailures : List SoftFailure := []
  iterations : List Iteration := []
  fault : Option StepFault := none
deriving DecidableEq, Repr

namespace StepCourse

def ofRound (r : Round) : StepCourse := { softFailures := r.softFailures, fault := r.fault }

def ofFault (f : StepFault) : StepCourse := { fault := some f }

def failed (c : StepCourse) : Bool :=
  c.fault.isSome || !c.softFailures.isEmpty || c.iterations.any (·.status == .failed)

end StepCourse

namespace Step

def evaluateAll (r : Runner) (target : Option Target) : List Validation → Play Round
  | [] => return {}
  | v :: rest => do
    match ← (v.evaluate r target).run with
    | .error fault => return .ofFault fault
    | .ok verdict =>
      let later ← evaluateAll r target rest
      return later.afterVerdict verdict

/-- The pause after an action; a wait is one already. -/
def pauseAfter (s : Step) : Attempt StepFault Unit :=
  if s.action = .waitForTimeout then return () else s.pause

def round (s : Step) (r : Runner) (target : Option Target) : Play Round := do
  match ← (s.act r target).run with
  | .error fault => return .ofFault fault
  | .ok () =>
    match ← s.pauseAfter.run with
    | .error fault => return .ofFault fault
    | .ok () => evaluateAll r target s.validations

def rounds (s : Step) (r : Runner) (base : Target) (place : Nat) :
    Nat → Play (List Iteration × Option StepFault)
  | 0 => return ([], none)
  | count + 1 => do
    let this ← s.round r (some (base.element place))
    match this.fault with
    | some fault => return ([this.entry place], some fault)
    | none =>
      let (later, fault) ← rounds s r base (place + 1) count
      return (this.entry place :: later, fault)

def iterateOver (s : Step) (r : Runner) (base : Target) : Play StepCourse := do
  match ← (s.call (.count base)).run with
  | .error fault => return .ofFault fault
  | .ok count =>
    let (iterations, fault) ← s.rounds r base 0 count
    return { iterations, fault }

def drive (s : Step) (r : Runner) : Play StepCourse :=
  match s.selection.target? with
  | .error fault => return .ofFault fault
  | .ok none => return .ofRound (← s.round r none)
  | .ok (some base) => do
    if s.iterate then s.iterateOver r base else return .ofRound (← s.round r (some base))

def entry (s : Step) (position start finish : Nat) (c : StepCourse) : StepEntry where
  title := s.title position
  action := s.action.name
  status := .ofFailure c.failed
  startTime := .ofMillis start
  endTime := .ofMillis finish
  durationMs := finish - start
  error := c.fault.map StepFault.report
  softFailures := c.softFailures
  iterations := c.iterations

def runAll (r : Runner) (position : Nat) : List Step → Play (List StepEntry × Outcome)
  | [] => return ([], .completed)
  | s :: rest => do
    let start ← Play.clock
    let course ← s.drive r
    let finish ← Play.clock
    let this := s.entry position start finish course
    if course.fault.isSome then return ([this], .aborted)
    else
      let (later, outcome) ← runAll r (position + 1) rest
      return (this :: later, outcome)

end Step

namespace RunReport

def ofEntries (id : RunId) (description : String) (start finish : Nat) (outcome : Outcome)
    (entries : List StepEntry) : RunReport where
  runId := id
  testCase := description
  status := .ofFailure (!entries.all (·.status == .passed))
  outcome := outcome
  startTime := .ofMillis start
  endTime := .ofMillis finish
  durationMs := finish - start
  steps := entries

end RunReport

namespace TestCase

def runHere (c : TestCase) (r : Runner) : Attempt StepFault RunReport := do
  if c.steps.isEmpty then throw (.emptyTestCase c.description)
  let id ← Attempt.ofPlay Play.newId
  let start ← Attempt.ofPlay Play.clock
  let (entries, outcome) ← Attempt.ofPlay (Step.runAll r 0 c.steps)
  let finish ← Attempt.ofPlay Play.clock
  return .ofEntries id c.description start finish outcome entries

def run (c : TestCase) (r : Runner) : Attempt StepFault RunReport := do
  Attempt.ofPlay (Play.keep .empty)
  c.runHere r

end TestCase

end Walkthrough
