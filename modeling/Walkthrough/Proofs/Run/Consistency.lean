import Walkthrough.Proofs.Handler.Builtin
import Walkthrough.Proofs.Run.Performance

/-!
Reports of runs are consistent: the flags of every iteration, step and run say what is recorded
below them, entries follow the steps of the document, and only the last of a row ends with an error.
-/
namespace Walkthrough

theorem Status.ofFailure_eq_failed_iff (failed : Bool) :
    Status.ofFailure failed = .failed ↔ failed = true := by
  cases failed <;> simp [Status.ofFailure]

theorem Status.ofFailure_eq_passed_iff (failed : Bool) :
    Status.ofFailure failed = .passed ↔ failed = false := by
  cases failed <;> simp [Status.ofFailure]

/-- An iteration fails when it records a failure. -/
def Iteration.Consistent (i : Iteration) : Prop :=
  i.status = .failed ↔ i.error.isSome ∨ i.softFailures ≠ []

structure StepEntry.Consistent (e : StepEntry) : Prop where
  failed_iff : e.status = .failed ↔
    e.error.isSome ∨ e.softFailures ≠ [] ∨ ∃ i ∈ e.iterations, i.status = .failed
  numbered : e.iterations.map (·.index) = List.range e.iterations.length
  iterations : ∀ i ∈ e.iterations, i.Consistent
  earlier : ∀ i ∈ e.iterations.dropLast, i.error = none
  last : ∀ i ∈ e.iterations.getLast?, i.error = e.error
  softFailures : e.iterations ≠ [] → e.softFailures = []

/-- The report tells of a run of the given steps, from the first on. -/
structure RunReport.Consistent (report : RunReport) (steps : List Step) : Prop where
  nonempty : report.steps ≠ []
  length_le : report.steps.length ≤ steps.length
  follows : ∀ (i : Nat) (e : StepEntry), report.steps[i]? = some e →
    ∃ s, steps[i]? = some s ∧ e.title = s.title i ∧ e.action = s.action.name
  aborted_iff : report.outcome = .aborted ↔ ∃ e ∈ report.steps.getLast?, e.error.isSome
  earlier : ∀ e ∈ report.steps.dropLast, e.error = none
  completed : report.outcome = .completed → report.steps.length = steps.length
  passed_iff : report.status = .passed ↔ ∀ e ∈ report.steps, e.status = .passed
  entries : ∀ e ∈ report.steps, e.Consistent

/-- Iterations that follow each other from a place on, and the error that ended the row. -/
inductive Iteration.Row : Nat → List Iteration → Option String → Prop where
  | nil (place : Nat) : Row place [] none
  | stop {place : Nat} {i : Iteration} {error : String} (index : i.index = place)
      (consistent : i.Consistent) (stops : i.error = some error) : Row place [i] (some error)
  | next {place : Nat} {i : Iteration} {rest : List Iteration} {error : Option String}
      (index : i.index = place) (consistent : i.Consistent) (goesOn : i.error = none)
      (tail : Row (place + 1) rest error) : Row place (i :: rest) error

namespace Iteration.Row

variable {place : Nat} {row : List Iteration} {error : Option String}

theorem numbered (h : Row place row error) :
    row.map (·.index) = List.range' place row.length := by
  induction h with
  | nil => rfl
  | stop index consistent stops => simp [index]
  | next index consistent goesOn tail ih => simp [index, ih, List.range'_succ]

theorem consistent (h : Row place row error) : ∀ i ∈ row, i.Consistent := by
  induction h with
  | nil => simp
  | stop index consistent stops => simpa using consistent
  | next index consistent goesOn tail ih => simpa using ⟨consistent, ih⟩

theorem earlier (h : Row place row error) : ∀ i ∈ row.dropLast, i.error = none := by
  induction h with
  | nil => simp
  | stop index consistent stops => simp
  | @next place i rest error index consistent goesOn tail ih =>
    cases rest with
    | nil => simp
    | cons j rest => simpa [goesOn] using ih

theorem last (h : Row place row error) : ∀ i ∈ row.getLast?, i.error = error := by
  induction h with
  | nil => simp
  | stop index consistent stops => simpa using stops
  | @next place i rest error index consistent goesOn tail ih =>
    cases rest with
    | nil =>
      cases tail
      simpa using goesOn
    | cons j rest => simpa using ih

end Iteration.Row

/-- Entries of steps that follow each other from a position on, and how the row came to its end. -/
inductive StepEntry.Row : Nat → List Step → List StepEntry → Outcome → Prop where
  | nil (position : Nat) : Row position [] [] .completed
  | stop {position : Nat} {s : Step} {rest : List Step} {e : StepEntry}
      (title : e.title = s.title position) (action : e.action = s.action.name)
      (consistent : e.Consistent) (stops : e.error.isSome) : Row position (s :: rest) [e] .aborted
  | next {position : Nat} {s : Step} {rest : List Step} {e : StepEntry}
      {entries : List StepEntry} {outcome : Outcome}
      (title : e.title = s.title position) (action : e.action = s.action.name)
      (consistent : e.Consistent) (goesOn : e.error = none)
      (tail : Row (position + 1) rest entries outcome) :
      Row position (s :: rest) (e :: entries) outcome

namespace StepEntry.Row

variable {position : Nat} {steps : List Step} {row : List StepEntry} {outcome : Outcome}

theorem nonempty (h : Row position steps row outcome) (some_ : steps ≠ []) : row ≠ [] := by
  cases h with
  | nil => exact absurd rfl some_
  | stop => simp
  | next => simp

theorem length_le (h : Row position steps row outcome) : row.length ≤ steps.length := by
  induction h with
  | nil => simp
  | stop => simp
  | next title action consistent goesOn tail ih => simpa using ih

theorem follows (h : Row position steps row outcome) (i : Nat) (e : StepEntry)
    (found : row[i]? = some e) :
    ∃ s, steps[i]? = some s ∧ e.title = s.title (position + i) ∧ e.action = s.action.name := by
  induction h generalizing i with
  | nil => simp at found
  | @stop position s rest first title action consistent stops =>
    obtain ⟨rfl, rfl⟩ : i = 0 ∧ first = e := by
      cases i <;> simp_all
    exact ⟨s, rfl, title, action⟩
  | @next position s rest first entries outcome title action consistent goesOn tail ih =>
    cases i with
    | zero =>
      obtain rfl : first = e := by simpa using found
      exact ⟨s, rfl, title, action⟩
    | succ i =>
      obtain ⟨t, at_, named, acts⟩ := ih i (by simpa using found)
      exact ⟨t, by simpa using at_, by rw [named]; congr 1; omega, acts⟩

theorem earlier (h : Row position steps row outcome) : ∀ e ∈ row.dropLast, e.error = none := by
  induction h with
  | nil => simp
  | stop => simp
  | @next position s rest first entries outcome title action consistent goesOn tail ih =>
    cases entries with
    | nil => simp
    | cons second entries => simpa [goesOn] using ih

theorem aborted_iff (h : Row position steps row outcome) :
    outcome = .aborted ↔ ∃ e ∈ row.getLast?, e.error.isSome := by
  induction h with
  | nil => simp
  | stop title action consistent stops => simpa using stops
  | @next position s rest first entries outcome title action consistent goesOn tail ih =>
    cases entries with
    | nil =>
      cases tail
      simp [goesOn]
    | cons second entries => simpa using ih

theorem completed (h : Row position steps row outcome) (ends : outcome = .completed) :
    row.length = steps.length := by
  induction h with
  | nil => rfl
  | stop => cases ends
  | next title action consistent goesOn tail ih => simpa using ih ends

theorem consistent (h : Row position steps row outcome) : ∀ e ∈ row, e.Consistent := by
  induction h with
  | nil => simp
  | stop title action consistent stops => simpa using consistent
  | next title action consistent goesOn tail ih => simpa using ⟨consistent, ih⟩

end StepEntry.Row

theorem Round.entry_consistent (place : Nat) (this : Round) : (this.entry place).Consistent := by
  simp [Iteration.Consistent, Round.entry, Status.ofFailure_eq_failed_iff, Round.failed]

/-- A step that iterates records its failures in its iterations, and ends with the error of the
last; without iterations it may also end before the first of them. -/
def StepCourse.Consistent (c : StepCourse) : Prop :=
  c.iterations = [] ∨
    c.softFailures = [] ∧ Iteration.Row 0 c.iterations (c.fault.map StepFault.report)

theorem Step.entry_consistent (s : Step) (position start finish : Nat) {c : StepCourse}
    (h : c.Consistent) : (s.entry position start finish c).Consistent := by
  have failed_iff : (s.entry position start finish c).status = .failed ↔
      c.fault.isSome ∨ c.softFailures ≠ [] ∨ ∃ i ∈ c.iterations, i.status = .failed := by
    simp [entry, Status.ofFailure_eq_failed_iff, StepCourse.failed, or_assoc]
  rcases h with none | ⟨soft, row⟩
  · exact ⟨by simpa [entry] using failed_iff, by simp [entry, none], by simp [entry, none],
      by simp [entry, none], by simp [entry, none], by simp [entry, none]⟩
  · refine ⟨by simpa [entry] using failed_iff, ?_, row.consistent, row.earlier, row.last,
      fun _ => soft⟩
    simpa [List.range_eq_range', entry] using row.numbered

namespace Step

variable (r : Runner)

theorem rounds_row (s : Step) (base : Target) (place count : Nat) :
    (s.rounds r base place count).Yields fun (row, fault) =>
      Iteration.Row place row (fault.map StepFault.report) := by
  induction count generalizing place with
  | zero => exact Play.yields_pure (.nil place)
  | succ count ih =>
    refine Play.yields_then fun this => ?_
    have consistent := this.entry_consistent place
    split
    · rename_i fault ends
      exact Play.yields_pure (.stop rfl consistent (by simp [Round.entry, ends]))
    · rename_i ends
      refine Play.yields_bind (ih (place + 1)) fun (later, fault) tail => ?_
      exact Play.yields_pure (.next rfl consistent (by simp [Round.entry, ends]) tail)

theorem drive_consistent (s : Step) : (s.drive r).Yields StepCourse.Consistent := by
  unfold drive
  split
  · exact Play.yields_pure (.inl rfl)
  · exact Play.yields_then fun _ => Play.yields_pure (.inl rfl)
  · split
    · refine Play.yields_then fun counted => ?_
      split
      · exact Play.yields_pure (.inl rfl)
      · refine Play.yields_bind (rounds_row r s _ 0 _) fun (row, fault) h => ?_
        exact Play.yields_pure (.inr ⟨rfl, h⟩)
    · exact Play.yields_then fun _ => Play.yields_pure (.inl rfl)

theorem runAll_row (position : Nat) (steps : List Step) :
    (runAll r position steps).Yields fun (row, outcome) =>
      StepEntry.Row position steps row outcome := by
  induction steps generalizing position with
  | nil => exact Play.yields_pure (.nil position)
  | cons s rest ih =>
    refine Play.yields_then fun start => ?_
    refine Play.yields_bind (drive_consistent r s) fun course h => ?_
    refine Play.yields_then fun finish => ?_
    have consistent := s.entry_consistent position start finish h
    dsimp only
    split
    · rename_i ends
      exact Play.yields_pure (.stop rfl rfl consistent (by simpa [entry] using ends))
    · rename_i ends
      refine Play.yields_bind (ih (position + 1)) fun (later, outcome) tail => ?_
      exact Play.yields_pure (.next rfl rfl consistent (by simpa [entry] using ends) tail)

end Step

theorem RunReport.ofEntries_consistent (id : RunId) (description : String) (start finish : Nat)
    {steps : List Step} {row : List StepEntry} {outcome : Outcome} (some_ : steps ≠ [])
    (h : StepEntry.Row 0 steps row outcome) :
    (RunReport.ofEntries id description start finish outcome row).Consistent steps where
  nonempty := h.nonempty some_
  length_le := h.length_le
  follows i e found := by simpa using h.follows i e found
  aborted_iff := h.aborted_iff
  earlier := h.earlier
  completed := h.completed
  passed_iff := by simp [ofEntries, Status.ofFailure_eq_passed_iff]
  entries := h.consistent

namespace TestCase

theorem course_consistent {σ : Type} {c : TestCase} {r : Runner} {page : Page σ} {w : World σ}
    {report : RunReport} (ended : (c.course r page w).result = some (.ok report)) :
    report.Consistent c.steps := by
  obtain ⟨some_, finish, entries, outcome, ran, rfl⟩ := course_ok ended
  have follows : StepEntry.Row 0 c.steps entries outcome :=
    (Step.runAll_row r 0 c.steps).result page _ ran
  exact RunReport.ofEntries_consistent _ _ _ _ some_ follows

/-- A case with steps has a consistent report, whatever the page answers and the handlers do, unless
a handler crashes. -/
theorem report_consistent {σ : Type} (c : TestCase) (r : Runner) (some_ : c.steps ≠ [])
    (page : Page σ) (w : World σ) :
    ((c.course r page w).result = none ∧ ¬ r.registry.Steady) ∨
      ∃ report, (c.course r page w).result = some (.ok report) ∧ report.Consistent c.steps := by
  rcases course_reports c r some_ page w with crashed | ⟨report, ended⟩
  · exact .inl crashed
  · exact .inr ⟨report, ended, course_consistent ended⟩

/-- The third step of the sample is not reached, as the second aborts the run. -/
theorem rows_report_consistent :
    Sample.rows.steps ≠ [] ∧
      ∃ report, (Sample.rows.course Sample.runner MemoryPage.page Sample.start).result =
          some (.ok report) ∧
        report.Consistent Sample.rows.steps ∧ report.outcome = .aborted ∧
        report.steps.map (·.iterations.length) = [2, 0] := by
  have some_ : Sample.rows.steps ≠ [] := by decide
  rcases report_consistent Sample.rows Sample.runner some_ MemoryPage.page Sample.start with
    crashed | ⟨report, ends, consistent⟩
  · exact absurd Registry.builtin_steady crashed.2
  · have shape : (Sample.rows.course Sample.runner MemoryPage.page Sample.start).result.map
        (·.toOption.map fun report => (report.outcome, report.steps.map (·.iterations.length))) =
          some (some (.aborted, [2, 0])) := by decide +kernel
    rw [ends] at shape
    simp only [Option.map_some, Except.toOption, Option.some.injEq, Prod.mk.injEq] at shape
    exact ⟨some_, report, ends, consistent, shape⟩

end TestCase

end Walkthrough
