import Walkthrough.Report.Basic
import Walkthrough.Json.Record

/-!
The written form of reports.
-/
namespace Walkthrough

open Json (RecordField Schema Reader)

namespace RunId

def reader : Reader RunId := fun levels o => do
  let text ← Reader.text "a UUID string" levels o
  match parse text with
  | .ok r => return r
  | .error fault => Reader.misshapen (.custom ("UUID parsing failed: " ++ fault.message))

end RunId

namespace Timestamp

def reader : Reader Timestamp := fun levels o => do
  let text ← Reader.text "an RFC 3339 formatted date and time string" levels o
  match parse text with
  | .ok t => return t
  | .error fault => Reader.misshapen (.custom fault.message)

end Timestamp

namespace Status

def names : List (String × Status) := [("passed", .passed), ("failed", .failed)]

def write : Status → Json
  | .passed => .string "passed"
  | .failed => .string "failed"

end Status

namespace Outcome

def names : List (String × Outcome) := [("completed", .completed), ("aborted", .aborted)]

def write : Outcome → Json
  | .completed => .string "completed"
  | .aborted => .string "aborted"

end Outcome

def statusField {α : Type} (get : α → Status) (set : Status → α → α) : RecordField α :=
  .required "status" (Reader.variant Status.names) Status.write get set

def timeField {α : Type} (name : String) (get : α → Timestamp) (set : Timestamp → α → α) :
    RecordField α :=
  .required name Timestamp.reader (fun t => .string t.text) get set

def textField {α : Type} (name : String) (get : α → String) (set : String → α → α) :
    RecordField α :=
  .required name Reader.string Json.string get set

def errorField {α : Type} (get : α → Option String) (set : Option String → α → α) : RecordField α :=
  { RecordField.optional "error" Reader.string Json.string get set with presence := .namedOnly }

def durationField {α : Type} (get : α → Nat) (set : Nat → α → α) : RecordField α :=
  .required "duration_ms" (Reader.nat "u64") Json.ofNat get set

namespace SoftFailure

def schema : Schema SoftFailure where
  label := "SoftFailure"
  blank := ⟨"", ""⟩
  fields := [
    textField "validation" (·.validation) fun v f => { f with validation := v },
    textField "message" (·.message) fun v f => { f with message := v }]

end SoftFailure

def softFailuresField {α : Type} (get : α → List SoftFailure)
    (set : List SoftFailure → α → α) : RecordField α :=
  .listOrNothing "soft_failures" SoftFailure.schema.read SoftFailure.schema.write get set

namespace Iteration

def schema : Schema Iteration where
  label := "IterationResult"
  blank := { index := 0, status := .passed }
  fields := [
    .required "index" (Reader.nat "usize") Json.ofNat (·.index) fun v i => { i with index := v },
    statusField (·.status) fun v i => { i with status := v },
    errorField (·.error) fun v i => { i with error := v },
    softFailuresField (·.softFailures) fun v i => { i with softFailures := v }]

end Iteration

namespace StepEntry

def schema : Schema StepEntry where
  label := "StepResult"
  blank :=
    { title := "", action := "", status := .passed, startTime := default, endTime := default,
      durationMs := 0 }
  fields := [
    textField "title" (·.title) fun v e => { e with title := v },
    textField "action" (·.action) fun v e => { e with action := v },
    statusField (·.status) fun v e => { e with status := v },
    timeField "start_time" (·.startTime) fun v e => { e with startTime := v },
    timeField "end_time" (·.endTime) fun v e => { e with endTime := v },
    durationField (·.durationMs) fun v e => { e with durationMs := v },
    errorField (·.error) fun v e => { e with error := v },
    softFailuresField (·.softFailures) fun v e => { e with softFailures := v },
    .listOrNothing "iterations" Iteration.schema.read Iteration.schema.write (·.iterations)
      fun v e => { e with iterations := v }]

end StepEntry

namespace RunReport

def schema : Schema RunReport where
  label := "RunReport"
  blank :=
    { runId := default, testCase := "", status := .passed, outcome := .completed,
      startTime := default, endTime := default, durationMs := 0, steps := [] }
  fields := [
    .required "run_id" RunId.reader (fun r => .string r.text) (·.runId)
      fun v r => { r with runId := v },
    textField "test_case" (·.testCase) fun v r => { r with testCase := v },
    statusField (·.status) fun v r => { r with status := v },
    .required "outcome" (Reader.variant Outcome.names) Outcome.write (·.outcome)
      fun v r => { r with outcome := v },
    timeField "start_time" (·.startTime) fun v r => { r with startTime := v },
    timeField "end_time" (·.endTime) fun v r => { r with endTime := v },
    durationField (·.durationMs) fun v r => { r with durationMs := v },
    .required "steps" (Reader.list StepEntry.schema.read)
      (fun es => .array (es.map StepEntry.schema.write)) (·.steps)
      fun v r => { r with steps := v }]

def parse (text : String) : Except Json.ReadFault RunReport := Reader.run schema.read text

def toJson (r : RunReport) : Json := schema.write r

end RunReport

namespace BatchReport

def schema : Schema BatchReport where
  label := "BatchReport"
  blank := ⟨.passed, []⟩
  fields := [
    statusField (·.status) fun v r => { r with status := v },
    .required "runs" (Reader.list RunReport.schema.read)
      (fun rs => .array (rs.map RunReport.schema.write)) (·.runs)
      fun v r => { r with runs := v }]

def parse (text : String) : Except Json.ReadFault BatchReport := Reader.run schema.read text

def toJson (r : BatchReport) : Json := schema.write r

end BatchReport

end Walkthrough
