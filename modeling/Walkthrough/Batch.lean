import Walkthrough.Play.World
import Walkthrough.Run.Report

/-!
Batches: several test cases, each on a page of its own, several at a time, or all on one page in
turn. There is one report for each case, in the order of the cases.
-/
namespace Walkthrough

namespace RunReport

def ofSetup (id : RunId) (now : Nat) (description title : String) (error : String) : RunReport where
  runId := id
  testCase := description
  status := .failed
  outcome := .aborted
  startTime := .ofMillis now
  endTime := .ofMillis now
  durationMs := 0
  steps := [{
    title := title
    action := "setup"
    status := .failed
    startTime := .ofMillis now
    endTime := .ofMillis now
    durationMs := 0
    error := some error }]

def ofOpening (id : RunId) (now : Nat) (c : TestCase) (t : Trouble) : RunReport :=
  .ofSetup id now c.description "Open page" (FaultCode.bridgeFault.label t.message)

def ofCrash (id : RunId) (now : Nat) (c : TestCase) : RunReport :=
  .ofSetup id now c.description "Run task" (FaultCode.internalFault.label "run task panicked")

end RunReport

namespace TestCase

def runInBatch (c : TestCase) (r : Runner) : Play RunReport := do
  match ← (c.run r).run with
  | .ok report => return report
  | .error fault =>
    let id ← Play.newId
    let now ← Play.clock
    return .ofSetup id now c.description "Validate test case" fault.report

def runAndClose (c : TestCase) (r : Runner) : Play RunReport := do
  let report ← c.runInBatch r
  let _ ← Play.call .close
  return report

end TestCase

structure Session (σ : Type) where
  calls : List TimedCall := []
  /-- The state that the page was left in, if it opened. -/
  page : Option σ := none
  /-- When the page's turn began and when it was over. -/
  start : Nat := 0
  finish : Nat := 0

/-- The pages of a batch in the order of their openings, and its report, unless the batch itself
crashed: by a handler on a page that was not its case's own, or for its number of slots. -/
structure BatchCourse (σ : Type) where
  report : Option BatchReport
  sessions : List (Session σ)

namespace Batch

variable {σ : Type}

def runInTurn (r : Runner) : List TestCase → Play (List RunReport)
  | [] => return []
  | c :: rest => do
    let report ← c.runInBatch r
    let others ← runInTurn r rest
    return report :: others

def runAllAndClose (r : Runner) (cases : List TestCase) : Play (List RunReport) := do
  let reports ← runInTurn r cases
  let _ ← Play.call .close
  return reports

def shared (page : Page σ) (opener : Opener σ) (r : Runner) (cases : List TestCase) :
    BatchCourse σ :=
  match opener 0 with
  | .error t =>
    let runs := cases.zipIdx.map fun (c, i) => RunReport.ofOpening (.ofRandom i) 0 c t
    ⟨some (.ofRuns runs), [{}]⟩
  | .ok state =>
    let course := (runAllAndClose r cases).perform page { page := state }
    ⟨course.result.map BatchReport.ofRuns,
      [⟨course.calls, some course.world.page, 0, course.world.now⟩]⟩

def turn (page : Page σ) (opened : Except Trouble σ) (r : Runner) (index start : Nat)
    (c : TestCase) : RunReport × Session σ :=
  match opened with
  | .error t => (.ofOpening (.ofRandom index) start c t, ⟨[], none, start, start⟩)
  | .ok state =>
    let course := (c.runAndClose r).perform page { page := state, now := start, ids := index }
    let report := match course.result with
      | some report => report
      | none => .ofCrash (.ofRandom index) course.world.now c
    (report, ⟨course.calls, some course.world.page, start, course.world.now⟩)

def takeSlot : List Nat → Nat × List Nat
  | [] => (0, [])
  | [slot] => (slot, [])
  | slot :: rest =>
    let (first, others) := takeSlot rest
    if slot ≤ first then (slot, rest) else (first, slot :: others)

def turns (page : Page σ) (opener : Opener σ) (r : Runner) (index : Nat) (slots : List Nat) :
    List TestCase → List (RunReport × Session σ)
  | [] => []
  | c :: rest =>
    let (start, others) := takeSlot slots
    let this := turn page (opener index) r index start c
    this :: turns page opener r (index + 1) (this.2.finish :: others) rest

/-- The number of cases that may run at a time; zero is no limit. -/
def slotsFor (parallel : Nat) (cases : List TestCase) : Nat :=
  if parallel = 0 then cases.length else parallel

def slotLimit : Nat := twoTo 61 - 1

/-- Runs each case on a page of its own, so many at a time. With more slots than a semaphore can
have the batch crashes before it begins. -/
def isolated (page : Page σ) (opener : Opener σ) (r : Runner) (parallel : Nat)
    (cases : List TestCase) : BatchCourse σ :=
  let slots := slotsFor parallel cases
  if slots ≤ slotLimit then
    let all := turns page opener r 0 (List.replicate (min slots cases.length) 0) cases
    ⟨some (.ofRuns (all.map (·.1))), all.map (·.2)⟩
  else ⟨none, []⟩

def run (page : Page σ) (opener : Opener σ) (r : Runner) (parallel : Nat) (sharedPage : Bool)
    (cases : List TestCase) : BatchCourse σ :=
  if cases.isEmpty then ⟨some (.ofRuns []), []⟩
  else if sharedPage then shared page opener r cases
  else isolated page opener r parallel cases

/-- How many pages are open when that of a session opens. Earlier pages that close at the very time
are closed before. -/
def openAt (earlier : List (Session σ)) (s : Session σ) : Nat :=
  ((earlier.filter fun e => e.page.isSome && s.start < e.finish).length) + 1

def maxOpenFrom (earlier : List (Session σ)) : List (Session σ) → Nat
  | [] => 0
  | s :: rest =>
    max (if s.page.isSome then openAt earlier s else 0) (maxOpenFrom (s :: earlier) rest)

def maxOpen (sessions : List (Session σ)) : Nat := maxOpenFrom [] sessions

def closes (s : Session σ) : Bool := s.calls.getLast?.any (·.call == .close)

end Batch

end Walkthrough
