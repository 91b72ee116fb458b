import Walkthrough.Batch.Schedule
import Walkthrough.Proofs.Run.Timeless

/-!
The turn of one case of a batch: the page that was opened for it, its run in a context of its own,
and the closing of the page.
-/
namespace Walkthrough

variable {σ : Type}

/-- The report says of a case, for lack of a run to report, what was wrong with it. -/
structure RunReport.FailsSetup (c : TestCase) (title : String) (code : FaultCode) (message : String)
    (report : RunReport) : Prop where
  made : ∃ id now, report = .ofSetup id now c.description title (code.label message)
  testCase : report.testCase = c.description
  status : report.status = .failed
  outcome : report.outcome = .aborted
  step : ∃ e, report.steps = [e] ∧ e.title = title ∧ e.action = "setup" ∧ e.status = .failed ∧
    e.error = some (code.label message)

theorem RunReport.failsSetup_ofSetup (c : TestCase) (title : String) (code : FaultCode)
    (message : String) (id : RunId) (now : Nat) :
    (ofSetup id now c.description title (code.label message)).FailsSetup c title code message :=
  ⟨⟨id, now, rfl⟩, rfl, rfl, rfl, _, rfl, rfl, rfl, rfl, rfl⟩

/-- What may be reported on a case, after what came of opening its page. -/
inductive TestCase.ReportedAs (c : TestCase) (r : Runner) (page : Page σ) :
    Except Trouble σ → RunReport → Prop where
  /-- The page did not open. -/
  | refused {report : RunReport} (trouble : Trouble)
      (fails : report.FailsSetup c "Open page" .bridgeFault trouble.message) :
      ReportedAs c r page (.error trouble) report
  /-- The run on that page, in a context of its own, has the report. -/
  | ran {report : RunReport} (w : World σ)
      (ended : (c.freshCourse r page w).result = some (.ok report)) :
      ReportedAs c r page (.ok w.page) report
  | empty {report : RunReport} (state : σ) (none : c.steps = [])
      (fails : report.FailsSetup c "Validate test case" .emptyTestCase
        s!"Test case '{c.description}' has no steps") : ReportedAs c r page (.ok state) report
  /-- A handler crashed in the run on that page. -/
  | crashed {report : RunReport} (w : World σ) (ended : (c.freshCourse r page w).result = none)
      (fails : report.FailsSetup c "Run task" .internalFault "run task panicked") :
      ReportedAs c r page (.ok w.page) report

namespace TestCase

section

variable (c : TestCase) (r : Runner) (page : Page σ) (w : World σ)

theorem freshCourse_error {f : StepFault}
    (ended : (c.freshCourse r page w).result = some (.error f)) :
    c.steps = [] ∧ f = .emptyTestCase c.description := by
  rw [freshCourse_eq] at ended
  by_cases none : c.steps = []
  · rw [course_of_nil c r none] at ended
    cases ended
    exact ⟨none, rfl⟩
  · rcases course_reports c r none page { w with context := .empty } with
      ⟨other, -⟩ | ⟨report, other⟩
    · rw [ended] at other
      cases other
    · rw [ended] at other
      cases other

theorem runInBatch_perform :
    (c.runInBatch r).perform page w =
      let run := c.freshCourse r page w
      match run.result with
      | none => ⟨none, run.calls, run.world⟩
      | some (.ok report) => ⟨some report, run.calls, run.world⟩
      | some (.error f) =>
        ⟨some (.ofSetup (.ofRandom run.world.ids) run.world.now c.description "Validate test case"
          f.report), run.calls, run.world.withIds (run.world.ids + 1)⟩ := by
  rw [runInBatch, Play.perform_bind]
  change Course.andThen page (c.freshCourse r page w) _ = _
  unfold Course.andThen
  split <;> rename_i ended
  · simp [ended]
  · rename_i x
    cases x with
    | ok report => simp [ended]
    | error f =>
      simp only [ended, Play.perform_newId_bind, Play.perform_clock_bind, Play.perform_pure,
        List.append_nil]
      rfl

theorem runInBatch_calls :
    ((c.runInBatch r).perform page w).calls = (c.freshCourse r page w).calls := by
  rw [runInBatch_perform]
  dsimp only
  split <;> rfl

theorem runInBatch_result_eq_none_iff :
    ((c.runInBatch r).perform page w).result = none ↔
      (c.freshCourse r page w).result = none := by
  rw [runInBatch_perform]
  dsimp only
  split <;> rename_i ended <;> simp [ended]

theorem runInBatch_reportedAs (id : RunId) (now : Nat) :
    c.ReportedAs r page (.ok w.page)
      (((c.runInBatch r).perform page w).result.getD (.ofCrash id now c)) := by
  rw [runInBatch_perform]
  dsimp only
  split <;> rename_i ended
  · exact .crashed w ended (RunReport.failsSetup_ofSetup ..)
  · exact .ran w ended
  · obtain ⟨none, rfl⟩ := freshCourse_error c r page w ended
    exact .empty w.page none (RunReport.failsSetup_ofSetup ..)

theorem runAndClose_perform :
    (c.runAndClose r).perform page w =
      let run := (c.runInBatch r).perform page w
      match run.result with
      | none => ⟨none, run.calls, run.world⟩
      | some report => ⟨some report, run.calls ++ [⟨run.world.now, .close⟩],
          (run.world.answer page (.call .close)).2⟩ := by
  rw [runAndClose, Play.perform_bind]
  unfold Course.andThen
  dsimp only
  split <;> rename_i ended <;> simp only [ended]
  rfl

theorem runAndClose_result :
    ((c.runAndClose r).perform page w).result = ((c.runInBatch r).perform page w).result := by
  rw [runAndClose_perform]
  dsimp only
  split <;> rename_i ended <;> simp only [ended]

theorem runAndClose_result_eq_none_iff :
    ((c.runAndClose r).perform page w).result = none ↔ (c.freshCourse r page w).result = none := by
  rw [runAndClose_result, runInBatch_result_eq_none_iff]

theorem runAndClose_calls {report : RunReport}
    (ended : ((c.runAndClose r).perform page w).result = some report) :
    ∃ time, ((c.runAndClose r).perform page w).calls =
      (c.freshCourse r page w).calls ++ [⟨time, .close⟩] := by
  rw [runAndClose_result] at ended
  refine ⟨((c.runInBatch r).perform page w).world.now, ?_⟩
  simp only [runAndClose_perform, ended, runInBatch_calls]

theorem runAndClose_calls_of_crash
    (crashed : ((c.runAndClose r).perform page w).result = none) :
    ((c.runAndClose r).perform page w).calls = (c.freshCourse r page w).calls := by
  rw [runAndClose_result] at crashed
  simp only [runAndClose_perform, crashed, runInBatch_calls]

end

end TestCase

namespace Batch

/-- What comes of the turn of a case, from its start on the page that it is given. There is no
report when a handler crashes. -/
def visit (page : Page σ) (opened : Except Trouble σ) (r : Runner) (i start : Nat)
    (c : TestCase) : Option RunReport × Session σ :=
  match opened with
  | .error trouble => (some (.ofOpening (.ofRandom i) start c trouble), ⟨[], none, start, start⟩)
  | .ok state =>
    let course := (c.runAndClose r).perform page { page := state, now := start, ids := i }
    (course.result, ⟨course.calls, some course.world.page, start, course.world.now⟩)

variable {page : Page σ} {r : Runner}

theorem turn_eq_visit (opened : Except Trouble σ) (i start : Nat) (c : TestCase) :
    turn page opened r i start c =
      let visited := visit page opened r i start c
      (visited.1.getD (.ofCrash (.ofRandom i) visited.2.finish c), visited.2) := by
  cases opened with
  | error trouble => rfl
  | ok state =>
    simp only [turn, visit]
    split <;> rename_i ended <;> simp [ended]

theorem visit_reportedAs (opened : Except Trouble σ) (i start : Nat) (c : TestCase) (id : RunId)
    (now : Nat) :
    c.ReportedAs r page opened ((visit page opened r i start c).1.getD (.ofCrash id now c)) := by
  cases opened with
  | error trouble => exact .refused trouble (RunReport.failsSetup_ofSetup ..)
  | ok state =>
    simp only [visit, TestCase.runAndClose_result]
    exact c.runInBatch_reportedAs r page { page := state, now := start, ids := i } id now

end Batch

/-- What comes of two openings cannot be told apart: both fail alike, or both give pages that behave
alike. -/
inductive Page.OpenAlike (page : Page σ) : Except Trouble σ → Except Trouble σ → Prop where
  | refused (trouble : Trouble) : OpenAlike page (.error trouble) (.error trouble)
  | opened {s t : σ} (R : σ → σ → Prop) (alike : page.Bisimulation R) (h : R s t) :
      OpenAlike page (.ok s) (.ok t)

theorem Page.openAlike_refl (page : Page σ) (opened : Except Trouble σ) :
    page.OpenAlike opened opened := by
  cases opened with
  | error trouble => exact .refused trouble
  | ok state => exact .opened Eq page.eq_bisimulation rfl

theorem RunReport.map_bare_eq_of_rel {x y : Option RunReport}
    (h : Option.Rel (fun report other => report.bare = other.bare) x y) :
    x.map RunReport.bare = y.map RunReport.bare := by
  cases h with
  | none => rfl
  | some same => exact congrArg some same

theorem TestCase.runAndClose_only (c : TestCase) (r : Runner) (page : Page σ) (w : World σ) :
    (c.runAndClose (r.withRegistry (r.registry.only c))).perform page w =
      (c.runAndClose r).perform page w := by
  simp only [runAndClose_perform, runInBatch_perform, freshCourse_eq, course_only]

namespace Batch

variable {page : Page σ} {r : Runner} {c : TestCase}

theorem visit_only (opened : Except Trouble σ) (i start : Nat) :
    visit page opened (r.withRegistry (r.registry.only c)) i start c =
      visit page opened r i start c := by
  cases opened with
  | error trouble => rfl
  | ok state => simp only [visit, TestCase.runAndClose_only]

variable (timeless : c.Timeless r.registry) {opened opened' : Except Trouble σ}
  (alike : page.OpenAlike opened opened')

include timeless alike

theorem visit_bare_of_zero (i i' start : Nat) :
    (visit page opened r i 0 c).1.map RunReport.bare =
      (visit page opened' r i' start c).1.map RunReport.bare := by
  rw [← visit_only opened, ← visit_only opened']
  cases alike with
  | refused trouble => rfl
  | @opened s t R alike h =>
    have worlds : World.Later start R { page := s, now := 0, ids := i }
        { page := t, now := start, ids := i' } := ⟨h, (Nat.zero_add start).symm, rfl⟩
    have plays := TestCase.runAndClose_later (r := r.withRegistry (r.registry.only c))
      (Registry.only_timeless timeless) start c
    exact RunReport.map_bare_eq_of_rel (plays.perform alike worlds).result

theorem visit_bare (i i' start start' : Nat) :
    (visit page opened r i start c).1.map RunReport.bare =
      (visit page opened' r i' start' c).1.map RunReport.bare := by
  rw [← visit_bare_of_zero timeless (page.openAlike_refl opened) i i start]
  exact visit_bare_of_zero timeless alike i i' start'

end Batch

end Walkthrough
