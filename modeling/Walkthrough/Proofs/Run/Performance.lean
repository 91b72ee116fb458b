import Walkthrough.Handler.Stock
import Walkthrough.Page.Memory
import Walkthrough.Proofs.Play.Identifiers
import Walkthrough.Proofs.Run.Requests

/-!
Runs of test cases as they are performed on a page, step by step.
-/
namespace Walkthrough

variable {σ : Type}

namespace Step

variable (r : Runner) (page : Page σ) (position : Nat) (s : Step) (rest : List Step)
  {w : World σ}

theorem runAll_cons_stopped {course : StepCourse}
    (ran : ((s.drive r).perform page w).result = some course) (stops : course.fault.isSome) :
    (runAll r position (s :: rest)).perform page w =
      let d := (s.drive r).perform page w
      ⟨some ([s.entry position w.now d.world.now course], .aborted), d.calls, d.world⟩ := by
  rw [runAll, Play.perform_clock_bind, Play.perform_bind]
  simp only [Course.andThen, ran, Play.perform_clock_bind, stops, if_true, Play.perform_pure,
    List.append_nil]

theorem runAll_cons_goesOn {course : StepCourse}
    (ran : ((s.drive r).perform page w).result = some course) (goesOn : course.fault = none) :
    (runAll r position (s :: rest)).perform page w =
      let d := (s.drive r).perform page w
      let e := (runAll r (position + 1) rest).perform page d.world
      ⟨e.result.map fun (later, outcome) =>
        (s.entry position w.now d.world.now course :: later, outcome),
        d.calls ++ e.calls, e.world⟩ := by
  rw [runAll, Play.perform_clock_bind, Play.perform_bind]
  simp only [Course.andThen, ran, Play.perform_clock_bind, goesOn, Option.isSome_none,
    Bool.false_eq_true, if_false]
  rw [Play.perform_bind]
  unfold Course.andThen
  split <;> rename_i later <;> simp [later]

end Step

namespace TestCase

/-- What comes of running a case on a page in the context that is there. -/
def course (c : TestCase) (r : Runner) (page : Page σ) (w : World σ) :
    Course σ (Except StepFault RunReport) :=
  (c.runHere r).run.perform page w

/-- What comes of running a case on a page in a context of its own. -/
def freshCourse (c : TestCase) (r : Runner) (page : Page σ) (w : World σ) :
    Course σ (Except StepFault RunReport) :=
  (c.run r).run.perform page w

theorem freshCourse_eq (c : TestCase) (r : Runner) (page : Page σ) (w : World σ) :
    c.freshCourse r page w = c.course r page { w with context := .empty } := by
  simp only [freshCourse, run, ExceptT.run_bind, Attempt.run_ofPlay, bind_assoc, pure_bind]
  rfl

theorem course_eq (c : TestCase) (r : Runner) (some_ : c.steps ≠ []) (page : Page σ)
    (w : World σ) :
    c.course r page w =
      let d := (Step.runAll r 0 c.steps).perform page (w.withIds (w.ids + 1))
      ⟨d.result.map fun (entries, outcome) => .ok <|
        .ofEntries (.ofRandom w.ids) c.description w.now d.world.now outcome entries,
        d.calls, d.world⟩ := by
  have filled : c.steps.isEmpty = false := by simpa using some_
  simp only [course, runHere, filled, Bool.false_eq_true, if_false, ExceptT.run_bind,
    Attempt.run_ofPlay, bind_assoc, pure_bind, ExceptT.run_pure]
  rw [Play.perform_newId_bind, Play.perform_clock_bind, Play.perform_bind]
  change Course.andThen page ((Step.runAll r 0 c.steps).perform page (w.withIds (w.ids + 1))) _ = _
  unfold Course.andThen
  split <;> rename_i ends
  · simp [ends]
  · simp only [Play.perform_clock_bind, Play.perform_pure]
    simp [ends]

theorem course_of_nil (c : TestCase) (r : Runner) (none : c.steps = []) (page : Page σ)
    (w : World σ) :
    c.course r page w = ⟨some (.error (.emptyTestCase c.description)), [], w⟩ := by
  have empty : c.steps.isEmpty = true := by simp [none]
  simp only [course, runHere, empty, if_true]
  rfl

theorem course_ok {c : TestCase} {r : Runner} {page : Page σ} {w : World σ} {report : RunReport}
    (ended : (c.course r page w).result = some (.ok report)) :
    c.steps ≠ [] ∧ ∃ finish entries outcome,
      ((Step.runAll r 0 c.steps).perform page (w.withIds (w.ids + 1))).result =
        some (entries, outcome) ∧
      report = .ofEntries (.ofRandom w.ids) c.description w.now finish outcome entries := by
  by_cases none : c.steps = []
  · rw [course_of_nil c r none] at ended
    cases ended
  · rw [course_eq c r none] at ended
    obtain ⟨⟨entries, outcome⟩, ran, eq⟩ := Option.map_eq_some_iff.mp ended
    exact ⟨none, _, entries, outcome, ran, (Except.ok.inj eq).symm⟩

theorem course_yields {c : TestCase} {r : Runner} {good : List StepEntry × Outcome → Prop}
    (h : (Step.runAll r 0 c.steps).Yields good) {page : Page σ} {w : World σ} {report : RunReport}
    (ended : (c.course r page w).result = some (.ok report)) :
    good (report.steps, report.outcome) := by
  obtain ⟨-, finish, entries, outcome, ran, rfl⟩ := course_ok ended
  exact h.result page _ ran

theorem course_result_ne_none (c : TestCase) {r : Runner} (some_ : c.steps ≠ [])
    (steady : r.registry.Steady) (page : Page σ) (w : World σ) :
    (c.course r page w).result ≠ none := by
  have confined := Step.runAll_confined (fun _ _ => trivial) steady 0 c.steps
  rw [course_eq c r some_]
  intro none
  exact confined.result page (w.withIds (w.ids + 1)) (Option.map_eq_none_iff.mp none)

theorem course_reports (c : TestCase) (r : Runner) (some_ : c.steps ≠ []) (page : Page σ)
    (w : World σ) :
    ((c.course r page w).result = none ∧ ¬ r.registry.Steady) ∨
      ∃ report, (c.course r page w).result = some (.ok report) := by
  cases ended : (c.course r page w).result with
  | none => exact .inl ⟨rfl, fun steady => course_result_ne_none c some_ steady page w ended⟩
  | some x =>
    rw [course_eq c r some_] at ended
    obtain ⟨_, -, rfl⟩ := Option.map_eq_some_iff.mp ended
    exact .inr ⟨_, rfl⟩

theorem course_ok_of_steady {c : TestCase} {r : Runner} (some_ : c.steps ≠ [])
    (steady : r.registry.Steady) (page : Page σ) (w : World σ) :
    ∃ report, (c.course r page w).result = some (.ok report) :=
  (course_reports c r some_ page w).resolve_left fun crashed => crashed.2 steady

end TestCase

namespace Sample

def rows : TestCase where
  description := "rows"
  steps := [
    { action := .hover, selector := some "li", iterate := true,
      validations := [{ kind := .toHaveText, data := some (.string "one"), soft := true }] },
    { action := .click, selector := some "#gone" },
    { action := .goto }]

def runner : Runner := { settings := { expectTimeout := .ofMillis 0 } }

def start : World MemoryPage :=
  { page := { elements := [{ key := "li", text := "one" }, { key := "li", text := "two" }] } }

def fragile : Runner where
  registry := Registry.builtin.addAction "boom" Stock.crash
  settings := { expectTimeout := .ofMillis 0 }

def boom : TestCase where
  description := "boom"
  steps := [{ action := .custom, customName := some "boom" }]

end Sample

end Walkthrough
