import Walkthrough.Preflight
import Walkthrough.Proofs.Run.Consistency

/-!
The failures that a report records, in the order in which they occurred, and the faults that they
come from.
-/
namespace Walkthrough

def Round.failures (r : Round) : List String :=
  r.softFailures.map (·.message) ++ (r.fault.map StepFault.report).toList

def Iteration.failures (i : Iteration) : List String :=
  i.softFailures.map (·.message) ++ i.error.toList

def StepCourse.failures (c : StepCourse) : List String :=
  c.iterations.flatMap Iteration.failures ++ c.softFailures.map (·.message)
    ++ (c.fault.map StepFault.report).toList

def StepEntry.failures (e : StepEntry) : List String :=
  e.iterations.flatMap Iteration.failures ++ e.softFailures.map (·.message) ++ e.error.toList

/-- The texts of all failures. An error that ended an iteration is told again by its step. -/
def RunReport.failures (report : RunReport) : List String :=
  report.steps.flatMap StepEntry.failures

def StepEntry.allSoftFailures (e : StepEntry) : List SoftFailure :=
  e.iterations.flatMap (·.softFailures) ++ e.softFailures

def RunReport.softFailures (report : RunReport) : List SoftFailure :=
  report.steps.flatMap StepEntry.allSoftFailures

@[simp] theorem Round.entry_failures (place : Nat) (this : Round) :
    (this.entry place).failures = this.failures := rfl

@[simp] theorem Step.entry_failures (s : Step) (position start finish : Nat) (c : StepCourse) :
    (s.entry position start finish c).failures = c.failures := rfl

theorem Iteration.Consistent.failed_iff_failures {i : Iteration} (h : i.Consistent) :
    i.status = .failed ↔ i.failures ≠ [] := by
  rw [Consistent] at h
  rw [h]
  cases error : i.error <;> simp [failures, error]

theorem StepEntry.Consistent.failed_iff_failures {e : StepEntry} (h : e.Consistent) :
    e.status = .failed ↔ e.failures ≠ [] := by
  have iterations : (∃ i ∈ e.iterations, i.status = .failed) ↔
      e.iterations.flatMap Iteration.failures ≠ [] := by
    simp only [ne_eq, List.flatMap_eq_nil_iff, Classical.not_forall, exists_prop]
    exact exists_congr fun i => and_congr_right fun member =>
      (h.iterations i member).failed_iff_failures
  have empty : e.failures = [] ↔ e.iterations.flatMap Iteration.failures = [] ∧
      e.softFailures = [] ∧ e.error = none := by
    simp [failures]
  rw [h.failed_iff, iterations, ne_eq e.failures, empty, Option.isSome_iff_ne_none]
  grind

theorem RunReport.Consistent.passed_iff_failures {report : RunReport} {steps : List Step}
    (h : report.Consistent steps) : report.status = .passed ↔ report.failures = [] := by
  rw [h.passed_iff, failures, List.flatMap_eq_nil_iff]
  refine forall_congr' fun e => forall_congr' fun member => ?_
  have failed := (h.entries e member).failed_iff_failures
  cases status : e.status with
  | passed => simpa [status] using failed
  | failed => simpa [status] using failed

theorem RunReport.Consistent.failed_of_first {report : RunReport} {steps : List Step}
    (h : report.Consistent steps) {text : String} (first : report.failures.head? = some text) :
    report.status = .failed := by
  cases status : report.status with
  | failed => rfl
  | passed => simp [h.passed_iff_failures.mp status] at first

theorem StepEntry.Consistent.failure_cases {e : StepEntry} (h : e.Consistent) {text : String}
    (shown : text ∈ e.failures) :
    (∃ s ∈ e.allSoftFailures, s.message = text) ∨ e.error = some text := by
  simp only [failures, Iteration.failures, List.mem_append, List.mem_flatMap, List.mem_map,
    Option.mem_toList] at shown
  rcases shown with (⟨i, at_, ⟨s, soft, rfl⟩ | error⟩ | ⟨s, soft, rfl⟩) | error
  · have recorded : s ∈ e.allSoftFailures :=
      List.mem_append_left _ (List.mem_flatMap.mpr ⟨i, at_, soft⟩)
    exact .inl ⟨s, recorded, rfl⟩
  · -- Only the last iteration has an error, and it is the step's own.
    have some_ : e.iterations ≠ [] := List.ne_nil_of_mem at_
    rw [← List.dropLast_concat_getLast some_, List.mem_append, List.mem_singleton] at at_
    rcases at_ with earlier | rfl
    · rw [h.earlier i earlier] at error
      cases error
    · have last := h.last _ (List.getLast?_eq_some_getLast some_)
      exact .inr (last ▸ error)
  · exact .inl ⟨s, List.mem_append_right _ soft, rfl⟩
  · exact .inr error

theorem RunReport.Consistent.failure_cases {report : RunReport} {steps : List Step}
    (h : report.Consistent steps) {text : String} (shown : text ∈ report.failures) :
    (∃ s ∈ report.softFailures, s.message = text) ∨
      ∃ earlier last, report.steps = earlier ++ [last] ∧ last.error = some text := by
  obtain ⟨e, member, inEntry⟩ := List.mem_flatMap.mp shown
  rcases (h.entries e member).failure_cases inEntry with ⟨s, soft, rfl⟩ | error
  · exact .inl ⟨s, List.mem_flatMap.mpr ⟨e, member, soft⟩, rfl⟩
  · have split := List.dropLast_concat_getLast h.nonempty
    rw [← split, List.mem_append, List.mem_singleton] at member
    rcases member with earlier | rfl
    · rw [h.earlier e earlier] at error
      cases error
    · exact .inr ⟨_, _, split.symm, error⟩

def StepFault.Told (bad : StepFault → Prop) (text : String) : Prop :=
  ∃ f, bad f ∧ text = f.report

def SoftFailure.Tells (bad : StepFault → Prop) (s : SoftFailure) : Prop :=
  StepFault.Told (fun f => bad f ∧ f.isAssertion) s.message

def Verdict.Tells (bad : StepFault → Prop) : Verdict → Prop
  | .passed => True
  | .softFailed failure => failure.Tells bad

structure Round.Tells (bad : StepFault → Prop) (this : Round) : Prop where
  fault : ∀ f ∈ this.fault, bad f
  softFailures : ∀ s ∈ this.softFailures, s.Tells bad

structure Iteration.Tells (bad : StepFault → Prop) (i : Iteration) : Prop where
  error : ∀ text ∈ i.error, StepFault.Told bad text
  softFailures : ∀ s ∈ i.softFailures, s.Tells bad

structure StepCourse.Tells (bad : StepFault → Prop) (c : StepCourse) : Prop where
  fault : ∀ f ∈ c.fault, bad f
  softFailures : ∀ s ∈ c.softFailures, s.Tells bad
  iterations : ∀ i ∈ c.iterations, i.Tells bad

structure StepEntry.Tells (bad : StepFault → Prop) (e : StepEntry) : Prop where
  error : ∀ text ∈ e.error, StepFault.Told bad text
  softFailures : ∀ s ∈ e.softFailures, s.Tells bad
  iterations : ∀ i ∈ e.iterations, i.Tells bad

/-- The step fails with certain faults only, on targets such as its selection gives. -/
structure Step.FailsOnly (r : Runner) (bad : StepFault → Prop) (s : Step) : Prop where
  selection : ∀ f, s.selection.target? = .error f → bad f
  call : ∀ c, (s.call c).Gives (fun _ => True) bad
  act : ∀ target : Option Target, target.isSome = s.selects →
    (s.act r target).Gives (fun _ => True) bad
  validation : ∀ v ∈ s.validations, ∀ target : Option Target, target.isSome = s.selects →
    (v.evaluate r target).Gives (Verdict.Tells bad) bad

variable {bad : StepFault → Prop}

theorem SoftFailure.Tells.told {s : SoftFailure} (h : s.Tells bad) :
    StepFault.Told bad s.message := by
  obtain ⟨f, ⟨holds, -⟩, told⟩ := h
  exact ⟨f, holds, told⟩

theorem StepEntry.Tells.failures {e : StepEntry} (h : e.Tells bad) :
    ∀ text ∈ e.failures, StepFault.Told bad text := by
  intro text member
  simp only [StepEntry.failures, List.mem_append, List.mem_flatMap, Iteration.failures,
    List.mem_map, Option.mem_toList] at member
  rcases member with (⟨i, at_, ⟨s, soft, rfl⟩ | error⟩ | ⟨s, soft, rfl⟩) | error
  · exact ((h.iterations i at_).softFailures s soft).told
  · exact (h.iterations i at_).error text error
  · exact (h.softFailures s soft).told
  · exact h.error text error

theorem StepEntry.Tells.allSoftFailures {e : StepEntry} (h : e.Tells bad) :
    ∀ s ∈ e.allSoftFailures, s.Tells bad := by
  intro s member
  simp only [StepEntry.allSoftFailures, List.mem_append, List.mem_flatMap] at member
  rcases member with ⟨i, at_, soft⟩ | soft
  · exact (h.iterations i at_).softFailures s soft
  · exact h.softFailures s soft

theorem Round.ofFault_tells {f : StepFault} (h : bad f) : (Round.ofFault f).Tells bad :=
  ⟨by simpa [ofFault] using h, by simp [ofFault]⟩

theorem Round.afterVerdict_tells {this : Round} {verdict : Verdict} (h : this.Tells bad)
    (first : verdict.Tells bad) : (this.afterVerdict verdict).Tells bad := by
  cases verdict with
  | passed => exact h
  | softFailed failure =>
    exact ⟨h.fault, by simpa [afterVerdict] using ⟨first, h.softFailures⟩⟩

theorem Round.entry_tells {this : Round} (place : Nat) (h : this.Tells bad) :
    (this.entry place).Tells bad := by
  refine ⟨?_, h.softFailures⟩
  intro text told
  obtain ⟨f, fault, rfl⟩ := Option.map_eq_some_iff.mp told
  exact ⟨f, h.fault f fault, rfl⟩

theorem StepCourse.ofRound_tells {this : Round} (h : this.Tells bad) :
    (StepCourse.ofRound this).Tells bad := ⟨h.fault, h.softFailures, by simp [ofRound]⟩

theorem StepCourse.ofFault_tells {f : StepFault} (h : bad f) : (StepCourse.ofFault f).Tells bad :=
  ⟨by simpa [ofFault] using h, by simp [ofFault], by simp [ofFault]⟩

theorem Step.entry_tells (s : Step) (position start finish : Nat) {c : StepCourse}
    (h : c.Tells bad) : (s.entry position start finish c).Tells bad := by
  refine ⟨?_, h.softFailures, h.iterations⟩
  intro text told
  obtain ⟨f, fault, rfl⟩ := Option.map_eq_some_iff.mp told
  exact ⟨f, h.fault f fault, rfl⟩

theorem Selection.target?_isSome {s : Selection} {target : Option Target}
    (found : s.target? = .ok target) : target.isSome = s.selector?.isSome := by
  unfold target? at found
  split at found
  · rename_i none
    simp [none, ← Except.ok.inj found]
  · rename_i selector some_
    split at found
    · simp [some_, ← Except.ok.inj found]
    · cases found

theorem Validation.evaluate_tells {r : Runner} {v : Validation} {inherited : Option Target}
    (selection : ∀ f, v.selection.target? = .error f → bad f)
    (check : ∀ own expect, v.selection.target? = .ok own →
      (v.check r ⟨own.or inherited, expect⟩).Gives (fun _ => True) bad) :
    (v.evaluate r inherited).Gives (Verdict.Tells bad) bad := by
  unfold evaluate
  split
  · rename_i f unsupported
    exact Attempt.gives_throw (selection f unsupported)
  · rename_i own found
    refine Attempt.gives_bind (Attempt.gives_result (check own _ found)) fun x told => ?_
    split
    · exact Attempt.gives_pure trivial
    · rename_i f
      split
      · rename_i softens
        have assertion : f.isAssertion := by
          simp only [Bool.and_eq_true] at softens
          exact softens.2
        exact Attempt.gives_pure ⟨f, ⟨told, assertion⟩, rfl⟩
      · exact Attempt.gives_throw told

namespace Step

variable {r : Runner}

theorem evaluateAll_tells (target : Option Target) (vs : List Validation)
    (each : ∀ v ∈ vs, (v.evaluate r target).Gives (Verdict.Tells bad) bad) :
    (evaluateAll r target vs).Yields (Round.Tells bad) := by
  induction vs with
  | nil => exact Play.yields_pure ⟨by simp, by simp⟩
  | cons v rest ih =>
    refine Play.yields_bind (each v (by simp)) fun x told => ?_
    split
    · exact Play.yields_pure (Round.ofFault_tells told)
    · refine Play.yields_bind (ih fun v member => each v (by simp [member])) fun later h => ?_
      exact Play.yields_pure (Round.afterVerdict_tells h told)

theorem pause_gives {s : Step} (call : ∀ c, (s.call c).Gives (fun _ => True) bad) :
    s.pause.Gives (fun _ => True) bad := by
  unfold pause
  split
  · split
    · exact call _
    · exact Attempt.gives_pure trivial
  · exact Attempt.gives_pure trivial

variable {s : Step} (h : s.FailsOnly r bad)

include h

theorem round_tells {target : Option Target} (selected : target.isSome = s.selects) :
    (s.round r target).Yields (Round.Tells bad) := by
  have pauseAfter : s.pauseAfter.Gives (fun _ => True) bad := by
    unfold pauseAfter
    split
    · exact Attempt.gives_pure trivial
    · exact pause_gives h.call
  refine Play.yields_bind (h.act target selected) fun x told => ?_
  split
  · exact Play.yields_pure (Round.ofFault_tells told)
  · refine Play.yields_bind pauseAfter fun x told => ?_
    split
    · exact Play.yields_pure (Round.ofFault_tells told)
    · exact evaluateAll_tells target s.validations fun v member =>
        h.validation v member target selected

theorem rounds_tells (selects : s.selects = true) (base : Target) (place count : Nat) :
    (s.rounds r base place count).Yields fun (row, fault) =>
      (∀ i ∈ row, i.Tells bad) ∧ ∀ f ∈ fault, bad f := by
  induction count generalizing place with
  | zero => exact Play.yields_pure ⟨by simp, by simp⟩
  | succ count ih =>
    have selected : (some (base.element place)).isSome = s.selects := by simp [selects]
    refine Play.yields_bind (round_tells h selected) fun this told => ?_
    have entry := Round.entry_tells place told
    split
    · rename_i f ends
      exact Play.yields_pure ⟨by simpa using entry, by simpa [ends] using told.fault⟩
    · refine Play.yields_bind (ih (place + 1)) fun (later, fault) tail => ?_
      exact Play.yields_pure ⟨by simpa using ⟨entry, tail.1⟩, tail.2⟩

theorem drive_tells : (s.drive r).Yields (StepCourse.Tells bad) := by
  unfold drive
  split
  · rename_i f unsupported
    exact Play.yields_pure (StepCourse.ofFault_tells (h.selection f unsupported))
  · rename_i found
    refine Play.yields_bind (round_tells h (Selection.target?_isSome found)) fun this told => ?_
    exact Play.yields_pure (StepCourse.ofRound_tells told)
  · rename_i base found
    have selected : (some base).isSome = s.selects := Selection.target?_isSome found
    split
    · refine Play.yields_bind (h.call _) fun x told => ?_
      split
      · exact Play.yields_pure (StepCourse.ofFault_tells told)
      · refine Play.yields_bind (rounds_tells h selected.symm base 0 _) fun (row, fault) told => ?_
        exact Play.yields_pure ⟨told.2, by simp, told.1⟩
    · refine Play.yields_bind (round_tells h selected) fun this told => ?_
      exact Play.yields_pure (StepCourse.ofRound_tells told)

omit h in
theorem runAll_tells (position : Nat) {steps : List Step}
    (each : ∀ s ∈ steps, s.FailsOnly r bad) :
    (runAll r position steps).Yields fun (entries, _) => ∀ e ∈ entries, e.Tells bad := by
  induction steps generalizing position with
  | nil => exact Play.yields_pure (by simp)
  | cons s rest ih =>
    refine Play.yields_then fun start => ?_
    refine Play.yields_bind (drive_tells (each s (by simp))) fun course told => ?_
    refine Play.yields_then fun finish => ?_
    have entry := s.entry_tells position start finish told
    dsimp only
    split
    · exact Play.yields_pure (by simpa using entry)
    · have tail := ih (position + 1) fun s member => each s (by simp [member])
      refine Play.yields_bind tail fun (later, outcome) told => ?_
      exact Play.yields_pure (by simpa using ⟨entry, told⟩)

omit h in
theorem failsOnly_any (r : Runner) (s : Step) : s.FailsOnly r fun _ => True where
  selection _ _ := trivial
  call _ := Attempt.gives_any _
  act _ _ := Attempt.gives_any _
  validation _ _ _ _ := Validation.evaluate_tells (fun _ _ => trivial) fun _ _ _ =>
    Attempt.gives_any _

end Step

theorem TestCase.course_tells {σ : Type} {c : TestCase} {r : Runner} {page : Page σ} {w : World σ}
    {report : RunReport} (each : ∀ s ∈ c.steps, s.FailsOnly r bad)
    (ended : (c.course r page w).result = some (.ok report)) :
    (∀ text ∈ report.failures, StepFault.Told bad text) ∧
      ∀ s ∈ report.softFailures, s.Tells bad := by
  have told := course_yields (Step.runAll_tells 0 each) ended
  simp only [RunReport.failures, RunReport.softFailures, List.mem_flatMap]
  refine ⟨?_, ?_⟩
  · rintro text ⟨e, member, shown⟩
    exact (told e member).failures text shown
  · rintro s ⟨e, member, shown⟩
    exact (told e member).allSoftFailures s shown

end Walkthrough
