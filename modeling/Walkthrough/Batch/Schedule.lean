import Walkthrough.Batch

/-!
A batch of cases with pages of their own, whose tasks may move in any order. A task waits for one of
the slots, asks the factory for a page, runs its case one request at a time, which ends with the
closing of the page, and gives its slot back. Tasks have nothing in common but the slots and the
factory; what they return is collected in the order in which they end.
-/
namespace Walkthrough.Batch

variable {σ : Type}

structure Plan (σ : Type) where
  page : Page σ
  opener : Opener σ
  runner : Runner
  /-- How many tasks may be at work at a time. -/
  slots : Nat
  /-- With more of them no task is ever begun, as the batch crashes. -/
  fits : slots ≤ slotLimit
  cases : List TestCase

def Plan.isolated (page : Page σ) (opener : Opener σ) (r : Runner) (parallel : Nat)
    (cases : List TestCase) (fits : slotsFor parallel cases ≤ slotLimit) : Plan σ where
  page := page
  opener := opener
  runner := r
  slots := slotsFor parallel cases
  fits := fits
  cases := cases

inductive Stage (σ : Type) where
  | waiting
  /-- A slot is taken, and no page is asked for yet. -/
  | admitted
  /-- A page is asked for, by the asking with this number. -/
  | opening (number : Nat)
  | running (rest : Play RunReport) (world : World σ) (calls : List TimedCall) (start : Nat)
  /-- The slot is given back. There is no report when a handler crashed. -/
  | finished (report : Option RunReport) (session : Session σ)

namespace Stage

def holdsSlot : Stage σ → Bool
  | .admitted | .opening _ | .running .. => true
  | .waiting | .finished .. => false

/-- The opening of the page has begun, and its closing is not over. -/
def engaged : Stage σ → Bool
  | .opening _ => true
  | .running rest .. => rest.value?.isNone
  | .waiting | .admitted | .finished .. => false

def isFinished : Stage σ → Bool
  | .finished .. => true
  | _ => false

end Stage

/-- How far a batch has come. Cases are told apart by their places. -/
structure Progress (σ : Type) where
  stages : List (Stage σ)
  /-- The cases whose pages were asked for, in this order. -/
  asked : List Nat := []
  /-- What tasks returned, in the order in which they ended. -/
  results : List (Nat × Option RunReport) := []

namespace Progress

def held (s : Progress σ) : Nat := s.stages.countP Stage.holdsSlot

def engaged (s : Progress σ) : Nat := s.stages.countP Stage.engaged

def finished (s : Progress σ) : Bool := s.stages.all Stage.isFinished

def put (s : Progress σ) (i : Nat) (stage : Stage σ) : Progress σ :=
  { s with stages := s.stages.set i stage }

def ask (s : Progress σ) (i : Nat) : Progress σ :=
  { s.put i (.opening s.asked.length) with asked := s.asked ++ [i] }

def finish (s : Progress σ) (i : Nat) (report : Option RunReport) (session : Session σ) :
    Progress σ :=
  { s.put i (.finished report session) with results := s.results ++ [(i, report)] }

end Progress

structure Move where
  task : Nat
  time : Nat
deriving DecidableEq, Repr

def collect (results : List (Nat × Option RunReport)) (slots : List (Option RunReport)) :
    List (Option RunReport) :=
  results.foldl (fun slots (i, report) =>
    match report with
    | some report => slots.set i (some report)
    | none => slots) slots

namespace Plan

variable (p : Plan σ)

def start : Progress σ := { stages := p.cases.map fun _ => .waiting }

/-- A move of the task of a case. Without a free slot a task that waits goes on waiting. -/
def move (s : Progress σ) (i time : Nat) (c : TestCase) : Stage σ → Progress σ
  | .waiting => if s.held < p.slots then s.put i .admitted else s
  | .admitted => s.ask i
  | .opening number =>
    match p.opener number with
    | .error trouble =>
      s.finish i (some (.ofOpening (.ofRandom i) time c trouble)) ⟨[], none, time, time⟩
    | .ok state =>
      s.put i (.running (c.runAndClose p.runner) { page := state, now := time, ids := i } [] time)
  | .running rest world calls start =>
    match rest.advance? p.page world with
    | some (next, made, after) => s.put i (.running next after (calls ++ made) start)
    | none => s.finish i rest.value? ⟨calls, some world.page, start, world.now⟩
  | .finished .. => s

def step (s : Progress σ) (m : Move) : Progress σ :=
  match p.cases[m.task]?, s.stages[m.task]? with
  | some c, some stage => p.move s m.task m.time c stage
  | _, _ => s

def run (moves : List Move) : Progress σ := moves.foldl p.step p.start

def reportOf (time i : Nat) (c : TestCase) (slot : Option RunReport) : RunReport :=
  slot.getD (.ofCrash (.ofRandom i) time c)

def report? (s : Progress σ) (time : Nat) : Option BatchReport :=
  if s.finished then
    let slots := collect s.results (p.cases.map fun _ => none)
    some (.ofRuns ((p.cases.zip slots).zipIdx.map fun ((c, slot), i) => reportOf time i c slot))
  else none

end Plan

end Walkthrough.Batch
