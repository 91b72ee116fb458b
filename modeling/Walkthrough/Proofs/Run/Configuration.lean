import Walkthrough.Proofs.Check.Misconfigured

/-!
A step with a misconfigured validation ends the run, if it comes to its validations at all.
-/
namespace Walkthrough

def Step.Misconfigured (r : Runner) (s : Step) : Prop :=
  ∃ v ∈ s.validations, ∃ code, v.Misconfigured r s.selects code

def Round.endedBy (f : StepFault) (this : Round) : Round :=
  { this with fault := this.fault.or (some f) }

namespace Step

variable {r : Runner}

theorem evaluateAll_throws {target : Option Target} {v : Validation} {f : StepFault}
    (throws : v.evaluate r target = throw f) (before after : List Validation) :
    evaluateAll r target (before ++ v :: after) =
      evaluateAll r target before >>= fun this => pure (this.endedBy f) := by
  induction before with
  | nil =>
    simp only [List.nil_append, evaluateAll, throws]
    rfl
  | cons first rest ih =>
    simp only [List.cons_append, evaluateAll, bind_assoc, ih]
    refine bind_congr fun x => ?_
    cases x with
    | error fault => rfl
    | ok verdict =>
      simp only [bind_assoc, pure_bind]
      refine bind_congr fun this => ?_
      cases verdict <;> rfl

theorem evaluateAll_misconfigured {s : Step} (bad : s.Misconfigured r) {target : Option Target}
    (selected : target.isSome = s.selects) :
    (evaluateAll r target s.validations).Yields fun this => this.fault.isSome := by
  obtain ⟨v, member, code, wrong⟩ := bad
  rw [← selected] at wrong
  obtain ⟨f, throws, -, -⟩ := wrong.evaluate_throws
  have as_written : v.evaluate r target = throw f := throws v.soft
  obtain ⟨before, after, split⟩ := List.append_of_mem member
  rw [split, evaluateAll_throws as_written]
  exact Play.yields_then fun this => Play.yields_pure (by simp [Round.endedBy])

theorem round_misconfigured {s : Step} (bad : s.Misconfigured r) {target : Option Target}
    (selected : target.isSome = s.selects) :
    (s.round r target).Yields fun this => this.fault.isSome := by
  refine Play.yields_then fun acted => ?_
  split
  · exact Play.yields_pure rfl
  · refine Play.yields_then fun paused => ?_
    split
    · exact Play.yields_pure rfl
    · exact evaluateAll_misconfigured bad selected

/-- The step comes to its validations in every iteration, so it has to have one. -/
theorem drive_misconfigured {s : Step} (bad : s.Misconfigured r) :
    (s.drive r).Yields fun course =>
      (s.iterate = true → s.selects = true → course.iterations ≠ []) → course.fault.isSome := by
  unfold drive
  split
  · exact Play.yields_pure fun _ => rfl
  · rename_i found
    refine Play.yields_bind (round_misconfigured bad (Selection.target?_isSome found))
      fun this ends => ?_
    exact Play.yields_pure fun _ => ends
  · rename_i base found
    have selected : (some base).isSome = s.selects := Selection.target?_isSome found
    split
    · rename_i iterates
      refine Play.yields_then fun counted => ?_
      split
      · exact Play.yields_pure fun _ => rfl
      · rename_i count
        have rounds : (s.rounds r base 0 count).Yields fun ran =>
            ran.1 ≠ [] → ran.2.isSome := by
          cases count with
          | zero => exact Play.yields_pure fun some_ => absurd rfl some_
          | succ count =>
            have element : (some (base.element 0)).isSome = s.selects := selected
            refine Play.yields_bind (round_misconfigured bad element) fun this ends => ?_
            split
            · exact Play.yields_pure fun _ => rfl
            · rename_i goesOn
              simp [goesOn] at ends
        refine Play.yields_bind rounds ?_
        rintro ⟨row, fault⟩ ends
        exact Play.yields_pure fun iterated => ends (iterated iterates selected.symm)
    · refine Play.yields_bind (round_misconfigured bad selected) fun this ends => ?_
      exact Play.yields_pure fun _ => ends

theorem runAll_entries {good : Step → StepCourse → Prop}
    (each : ∀ s : Step, (s.drive r).Yields (good s)) (position : Nat) (steps : List Step) :
    (runAll r position steps).Yields fun (entries, _) =>
      ∀ (i : Nat) s e, steps[i]? = some s → entries[i]? = some e →
        ∃ start finish course, e = s.entry (position + i) start finish course ∧ good s course := by
  induction steps generalizing position with
  | nil => exact Play.yields_pure (by simp)
  | cons first rest ih =>
    refine Play.yields_then fun start => ?_
    refine Play.yields_bind (each first) fun course ends => ?_
    refine Play.yields_then fun finish => ?_
    dsimp only
    split
    · refine Play.yields_pure fun i s e at_ shown => ?_
      cases i with
      | zero =>
        obtain rfl : first = s := by simpa using at_
        exact ⟨start, finish, course, by simpa using shown.symm, ends⟩
      | succ i => simp at shown
    · refine Play.yields_bind (ih (position + 1)) fun (later, outcome) tail => ?_
      refine Play.yields_pure fun i s e at_ shown => ?_
      cases i with
      | zero =>
        obtain rfl : first = s := by simpa using at_
        exact ⟨start, finish, course, by simpa using shown.symm, ends⟩
      | succ i =>
        have there := tail i s e (by simpa using at_) (by simpa using shown)
        rwa [Nat.add_assoc, Nat.add_comm 1] at there

end Step

theorem RunReport.Consistent.ends_at {report : RunReport} {steps : List Step}
    (h : report.Consistent steps) {i : Nat} {e : StepEntry} (shown : report.steps[i]? = some e)
    (fails : e.error.isSome) : report.outcome = .aborted ∧ report.steps.length = i + 1 := by
  obtain ⟨below, at_⟩ := List.getElem?_eq_some_iff.mp shown
  have last : report.steps.length = i + 1 := by
    false_or_by_contra
    rename_i further
    have member : e ∈ report.steps.dropLast := by
      refine List.mem_iff_getElem.mpr ⟨i, by simp; omega, ?_⟩
      rw [List.getElem_dropLast, at_]
    simp [h.earlier e member] at fails
  refine ⟨h.aborted_iff.mpr ⟨e, ?_, fails⟩, last⟩
  rw [List.getLast?_eq_getElem?, last]
  exact shown

theorem TestCase.course_misconfigured {σ : Type} {c : TestCase} {r : Runner} {page : Page σ}
    {w : World σ} {report : RunReport} (ended : (c.course r page w).result = some (.ok report))
    {i : Nat} {s : Step} {e : StepEntry} (at_ : c.steps[i]? = some s)
    (shown : report.steps[i]? = some e) (bad : s.Misconfigured r)
    (reached : s.iterate = true → s.selects = true → e.iterations ≠ []) :
    e.error.isSome ∧ report.outcome = .aborted ∧ report.steps.length = i + 1 := by
  have each (s : Step) : (s.drive r).Yields fun course => s.Misconfigured r →
      (s.iterate = true → s.selects = true → course.iterations ≠ []) → course.fault.isSome := by
    by_cases bad : s.Misconfigured r
    · exact (Step.drive_misconfigured bad).mono fun course ends _ => ends
    · exact (s.drive r).yields_any.mono fun course _ wrong => absurd wrong bad
  have entries := course_yields (Step.runAll_entries each 0 c.steps) ended
  obtain ⟨start, finish, course, rfl, ends⟩ := entries i s e at_ shown
  have fails : (s.entry (0 + i) start finish course).error.isSome := by
    simpa [Step.entry] using ends bad reached
  exact ⟨fails, (course_consistent ended).ends_at shown fails⟩

end Walkthrough
