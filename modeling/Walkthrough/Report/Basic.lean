import Walkthrough.Report.RunId
import Walkthrough.Report.Timestamp

/-!
Reports of runs: one entry for each step that was reached, and in it one for each iteration.
-/
namespace Walkthrough

inductive Status where
  | passed
  | failed
deriving DecidableEq, Repr

inductive Outcome where
  | completed
  | aborted
deriving DecidableEq, Repr

def Status.ofFailure (failed : Bool) : Status := if failed then .failed else .passed

structure SoftFailure where
  validation : String
  message : String
deriving DecidableEq, Repr

structure Iteration where
  index : Nat
  status : Status
  error : Option String := none
  softFailures : List SoftFailure := []
deriving DecidableEq, Repr

structure StepEntry where
  title : String
  action : String
  status : Status
  startTime : Timestamp
  endTime : Timestamp
  durationMs : Nat
  error : Option String := none
  softFailures : List SoftFailure := []
  iterations : List Iteration := []
deriving DecidableEq, Repr

structure RunReport where
  runId : RunId
  testCase : String
  status : Status
  outcome : Outcome
  startTime : Timestamp
  endTime : Timestamp
  durationMs : Nat
  steps : List StepEntry
deriving DecidableEq, Repr

structure BatchReport where
  status : Status
  runs : List RunReport
deriving DecidableEq, Repr

def RunReport.passed (r : RunReport) : Bool := r.status == .passed

namespace BatchReport

def ofRuns (runs : List RunReport) : BatchReport :=
  ⟨.ofFailure (!runs.all RunReport.passed), runs⟩

def passed (r : BatchReport) : Bool := r.status == .passed

end BatchReport

end Walkthrough
