import Walkthrough.Proofs.Batch.Shared
import Walkthrough.Proofs.Report.Legible
import Walkthrough.Proofs.Run.Configuration

/-!
Reports of runs and of batches that are written and read again. What a run reports was measured on
the clock and counted, so a report can be read again as long as the clock is in a year that is
reckoned with.
-/
namespace Walkthrough

variable {σ : Type}

/-- The moments of the entry have a text of their own, and a word counts its iterations. -/
structure StepEntry.InRange (e : StepEntry) : Prop where
  startTime : e.startTime.Sound
  endTime : e.endTime.Sound
  iterations : FitsWord e.iterations.length

structure RunReport.InRange (r : RunReport) : Prop where
  startTime : r.startTime.Sound
  endTime : r.endTime.Sound
  steps : ∀ e ∈ r.steps, e.InRange

instance (e : StepEntry) : Decidable e.InRange :=
  decidable_of_iff (e.startTime.Sound ∧ e.endTime.Sound ∧ FitsWord e.iterations.length)
    ⟨fun ⟨startTime, endTime, iterations⟩ => ⟨startTime, endTime, iterations⟩,
      fun range => ⟨range.startTime, range.endTime, range.iterations⟩⟩

instance (r : RunReport) : Decidable r.InRange :=
  decidable_of_iff (r.startTime.Sound ∧ r.endTime.Sound ∧ ∀ e ∈ r.steps, e.InRange)
    ⟨fun ⟨startTime, endTime, steps⟩ => ⟨startTime, endTime, steps⟩,
      fun range => ⟨range.startTime, range.endTime, range.steps⟩⟩

structure StepEntry.Measured (e : StepEntry) : Prop where
  duration : ∃ finish, e.endTime = .ofMillis finish ∧ e.durationMs ≤ finish
  counted : ∀ i ∈ e.iterations, i.index < e.iterations.length

structure RunReport.Measured (r : RunReport) : Prop where
  duration : ∃ finish, r.endTime = .ofMillis finish ∧ r.durationMs ≤ finish
  steps : ∀ e ∈ r.steps, e.Measured

theorem fitsWord_of_le {n m : Nat} (fits : FitsWord m) (le : n ≤ m) : FitsWord n := by
  unfold FitsWord at fits ⊢
  omega

theorem Timestamp.fits_of_measured {t : Timestamp} {duration : Nat} (sound : t.Sound)
    (measured : ∃ finish, t = .ofMillis finish ∧ duration ≤ finish) : FitsWord duration := by
  obtain ⟨finish, rfl, le⟩ := measured
  exact fitsWord_of_le (fits_of_sound sound) le

theorem StepEntry.Measured.legible {e : StepEntry} (measured : e.Measured) (range : e.InRange) :
    e.Legible where
  startTime := range.startTime
  endTime := range.endTime
  duration := Timestamp.fits_of_measured range.endTime measured.duration
  iterations i member :=
    fitsWord_of_le range.iterations (Nat.le_of_lt (measured.counted i member))

theorem RunReport.Measured.legible {r : RunReport} (measured : r.Measured) (range : r.InRange) :
    r.Legible where
  startTime := range.startTime
  endTime := range.endTime
  duration := Timestamp.fits_of_measured range.endTime measured.duration
  steps e member := (measured.steps e member).legible (range.steps e member)

theorem StepEntry.Consistent.counted {e : StepEntry} (consistent : e.Consistent) :
    ∀ i ∈ e.iterations, i.index < e.iterations.length := by
  intro i member
  have index : i.index ∈ e.iterations.map (·.index) := List.mem_map_of_mem member
  rw [consistent.numbered] at index
  exact List.mem_range.mp index

theorem TestCase.course_measured {c : TestCase} {r : Runner} {page : Page σ} {w : World σ}
    {report : RunReport} (ended : (c.course r page w).result = some (.ok report)) :
    report.Measured := by
  have entries := course_yields (Step.runAll_entries (Step.drive_consistent r) 0 c.steps) ended
  have consistent := course_consistent ended
  constructor
  case duration =>
    obtain ⟨-, finish, _, _, -, rfl⟩ := course_ok ended
    exact ⟨finish, rfl, Nat.sub_le ..⟩
  case steps =>
    intro e member
    obtain ⟨i, at_⟩ := List.getElem?_of_mem member
    obtain ⟨s, step, -⟩ := consistent.follows i e at_
    obtain ⟨start, finish, course, rfl, -⟩ := entries i s e step at_
    exact ⟨⟨finish, rfl, Nat.sub_le ..⟩, (consistent.entries _ member).counted⟩

theorem RunReport.ofSetup_measured (id : RunId) (now : Nat) (description title error : String) :
    (RunReport.ofSetup id now description title error).Measured where
  duration := ⟨now, rfl, Nat.zero_le now⟩
  steps e member := by
    rw [List.mem_singleton.mp member]
    exact ⟨⟨now, rfl, Nat.zero_le now⟩, nofun⟩

theorem RunReport.FailsSetup.measured {c : TestCase} {title : String} {code : FaultCode}
    {message : String} {report : RunReport} (fails : report.FailsSetup c title code message) :
    report.Measured := by
  obtain ⟨id, now, rfl⟩ := fails.made
  exact ofSetup_measured ..

theorem TestCase.ReportedAs.measured {c : TestCase} {r : Runner} {page : Page σ}
    {opened : Except Trouble σ} {report : RunReport}
    (reported : c.ReportedAs r page opened report) : report.Measured := by
  cases reported with
  | refused trouble fails => exact fails.measured
  | ran w ended =>
    rw [freshCourse_eq] at ended
    exact course_measured ended
  | empty state none fails => exact fails.measured
  | crashed w ended fails => exact fails.measured

namespace Batch

variable {page : Page σ} {r : Runner} {cases : List TestCase}

theorem Relay.measured {w last : World σ} {runs : List RunReport} {calls : List TimedCall}
    (relay : Relay page r w cases runs calls last) : ∀ run ∈ runs, run.Measured := by
  induction relay with
  | done => nofun
  | ran ended others ih => exact List.forall_mem_cons.mpr ⟨TestCase.course_measured ended, ih⟩
  | empty none others ih =>
    exact List.forall_mem_cons.mpr ⟨RunReport.ofSetup_measured .., ih⟩

theorem Retold.measured {opener : Opener σ} {runs : List RunReport}
    (retold : Retold page opener r cases runs) : ∀ run ∈ runs, run.Measured := by
  intro run member
  obtain ⟨i, below, rfl⟩ := List.mem_iff_getElem.mp member
  obtain ⟨c, case⟩ : ∃ c, cases[i]? = some c :=
    ⟨_, List.getElem?_eq_getElem (retold.length ▸ below)⟩
  obtain ⟨number, start, time, told⟩ := retold.run i c case
  rw [List.getElem?_eq_getElem below] at told
  rw [Option.some.inj told]
  exact (visit_reportedAs (opener number) i start c (.ofRandom i) time).measured

theorem shared_measured {opener : Opener σ} {report : BatchReport}
    (reported : (shared page opener r cases).report = some report) :
    ∀ run ∈ report.runs, run.Measured := by
  unfold shared at reported
  split at reported
  · cases reported
    intro run member
    obtain ⟨⟨c, i⟩, -, rfl⟩ := List.mem_map.mp member
    exact RunReport.ofSetup_measured ..
  · rw [runAllAndClose_perform] at reported
    dsimp only at reported
    split at reported
    · rename_i crashed
      simp at reported
    · rename_i runs ended
      obtain rfl : BatchReport.ofRuns runs = report := by simpa using reported
      exact (relay_of_runInTurn ended).measured

theorem run_measured {opener : Opener σ} {parallel : Nat} {sharedPage : Bool}
    {report : BatchReport}
    (reported : (run page opener r parallel sharedPage cases).report = some report) :
    ∀ run ∈ report.runs, run.Measured := by
  cases sharedPage with
  | false =>
    obtain ⟨runs, rfl, retold⟩ := run_retold reported
    exact retold.measured
  | true =>
    unfold run at reported
    split at reported
    · cases reported
      nofun
    · exact shared_measured reported

theorem Plan.report?_measured {p : Plan σ} {moves : List Move} {time : Nat} {report : BatchReport}
    (reported : p.report? (p.run moves) time = some report) :
    ∀ run ∈ report.runs, run.Measured := by
  obtain ⟨runs, rfl, retold⟩ := (p.run_sound moves).retold reported
  exact retold.measured

end Batch

structure ReportsRoundTrip : Prop where
  /-- The report of a run, in the context that is there. -/
  run : ∀ {σ : Type} (c : TestCase) (r : Runner) (page : Page σ) (w : World σ) report,
    (c.course r page w).result = some (.ok report) → report.InRange → report.Restored
  /-- The report of a run in a context of its own. -/
  freshRun : ∀ {σ : Type} (c : TestCase) (r : Runner) (page : Page σ) (w : World σ) report,
    (c.freshCourse r page w).result = some (.ok report) → report.InRange → report.Restored
  batch : ∀ {σ : Type} (page : Page σ) (opener : Opener σ) r parallel sharedPage cases report,
    (Batch.run page opener r parallel sharedPage cases).report = some report →
      (∀ run ∈ report.runs, run.InRange) → report.Restored
  /-- In whatever order the tasks of a batch move. -/
  schedule : ∀ {σ : Type} (p : Batch.Plan σ) moves time report,
    p.report? (p.run moves) time = some report → (∀ run ∈ report.runs, run.InRange) →
      report.Restored
  /-- Whatever can be read as a report. -/
  readRun : ∀ text report, RunReport.parse text = .ok report → report.Restored
  readBatch : ∀ text report, BatchReport.parse text = .ok report → report.Restored
  omitted : ReportsOmit

theorem batch_restored {report : BatchReport} (measured : ∀ run ∈ report.runs, run.Measured)
    (range : ∀ run ∈ report.runs, run.InRange) : report.Restored :=
  BatchReport.Legible.restored fun run member => (measured run member).legible (range run member)

/-- Reports are read from their own texts, those of runs and of batches as well as those that were
read before. -/
theorem reports_round_trip : ReportsRoundTrip where
  run _ _ _ _ _ ended range := ((TestCase.course_measured ended).legible range).restored
  freshRun c r page w report ended range := by
    rw [TestCase.freshCourse_eq] at ended
    exact ((TestCase.course_measured ended).legible range).restored
  batch _ _ _ _ _ _ _ reported := batch_restored (Batch.run_measured reported)
  schedule _ _ _ _ reported := batch_restored (Batch.Plan.report?_measured reported)
  readRun _ _ := RunReport.restored_of_parse
  readBatch _ _ := BatchReport.restored_of_parse
  omitted := reports_omit

namespace Sample

/-- The report of a run with a soft failure in its second iteration, and an entry with an error. -/
theorem rows_restored : ∃ report,
    (rows.course runner MemoryPage.page start).result = some (.ok report) ∧ report.InRange ∧
      report.steps.map (fun e => (e.error.isSome, e.iterations.map (·.softFailures.length))) =
        [(false, [0, 1]), (true, [])] ∧
      RunReport.parse report.toJson.indented = .ok report := by
  have found : ((rows.course runner MemoryPage.page start).result.bind (·.toOption)).map
      (fun report => (decide report.InRange, report.steps.map fun e =>
        (e.error.isSome, e.iterations.map (·.softFailures.length)))) =
      some (true, [(false, [0, 1]), (true, [])]) := by decide +kernel
  cases ended : (rows.course runner MemoryPage.page start).result with
  | none =>
    rw [ended] at found
    cases found
  | some x =>
    rw [ended] at found
    cases x with
    | error fault => cases found
    | ok report =>
      obtain ⟨range, shape⟩ := Prod.mk.inj (Option.some.inj found)
      have range : report.InRange := of_decide_eq_true range
      exact ⟨report, rfl, range, shape,
        (reports_round_trip.run rows runner MemoryPage.page start report ended range).indented⟩

end Sample

end Walkthrough
