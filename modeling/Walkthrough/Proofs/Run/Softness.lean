import Walkthrough.Proofs.Fault.Label
import Walkthrough.Proofs.Run.Configuration
import Walkthrough.Proofs.Run.Hardened

/-!
Soft flags decide how far a run goes on after an assertion has failed, and nothing else. Runs of
cases that differ in soft flags are compared by way of the case without any.
-/
namespace Walkthrough

namespace RunReport

def AssertionsHold (report : RunReport) : Prop :=
  ∀ text ∈ report.failures, ∀ message, text ≠ FaultCode.assertionFailed.label message

/-- The run was aborted by an assertion, which is all that failed. -/
structure StopsAt (f : StepFault) (report : RunReport) : Prop where
  assertion : f.isAssertion = true
  aborted : report.outcome = .aborted
  failures : Sole (some f.report) report.failures

end RunReport

/-- Two runs first fail at the same assertion, and both begin with the calls that a run makes which
stops there. -/
structure Course.PartAt {σ : Type} (f : StepFault)
    (hard first second : Course σ (Except StepFault RunReport)) : Prop where
  stops : ∃ report, hard.result = some (.ok report) ∧ report.StopsAt f
  calls : hard.calls <+: first.calls ∧ hard.calls <+: second.calls
  failure : ∀ report, first.result = some (.ok report) ∨ second.result = some (.ok report) →
    report.failures.head? = some f.report

namespace TestCase

variable {σ : Type}

section

variable {r : Runner} (ignores : r.registry.IgnoresSoft)

include ignores

theorem runHere_agree (c : TestCase) :
    Play.Agree
      (fun x => ∀ report, x = .ok report → ∃ error, Sole error report.failures ∧
        (report.outcome = .aborted ↔ error.isSome))
      (fun (f : StepFault) x => ∀ report, x = .ok report →
        report.failures.head? = some f.report)
      (fun f x => ∃ report, x = .ok report ∧ report.StopsAt f)
      (c.runHere r).run (c.hardened.runHere r).run := by
  have empty : c.hardened.steps.isEmpty = c.steps.isEmpty := by simp [hardened]
  simp only [runHere, empty]
  split
  · refine Play.agree_pure ?_
    rintro _ ⟨⟩
  · simp only [ExceptT.run_bind, Attempt.run_ofPlay, bind_assoc, pure_bind, ExceptT.run_pure]
    refine Play.agree_then _ fun id => Play.agree_then _ fun start => ?_
    refine Play.agree_bind (Step.runAll_agree ignores 0 c.steps) ?_ ?_ ?_
    · rintro ⟨entries, outcome⟩ ends
      refine Play.agree_then _ fun finish => Play.agree_pure ?_
      rintro _ ⟨⟩
      exact ends
    · rintro f ⟨entries, outcome⟩ first
      refine Play.yields_then fun finish => Play.yields_pure ?_
      rintro _ ⟨⟩
      exact first
    · rintro f ⟨entries, outcome⟩ ⟨⟨sole, aborted⟩, assertion⟩
      have stopped : outcome = .aborted := aborted.mpr rfl
      refine Play.concludes_clock_bind fun finish => ?_
      exact Play.concludes_pure ⟨_, rfl, assertion, stopped, sole⟩

variable (page : Page σ) (w : World σ)

theorem course_hardened (c : TestCase) :
    (c.course r page w = c.hardened.course r page w ∧
        ∀ report, (c.course r page w).result = some (.ok report) →
          ∃ error, Sole error report.failures ∧ (report.outcome = .aborted ↔ error.isSome)) ∨
      ∃ f report, (c.hardened.course r page w).result = some (.ok report) ∧ report.StopsAt f := by
  rcases (runHere_agree ignores c).perform page w with
    ⟨same, firm⟩ | ⟨f, x, ended, ⟨report, rfl, stops⟩, -⟩
  · refine .inl ⟨same, fun report ended => firm _ ?_ report rfl⟩
    exact same ▸ ended
  · exact .inr ⟨f, report, ended, stops⟩

theorem course_of_stops {c : TestCase} {f : StepFault} {stopped : RunReport}
    (ended : (c.hardened.course r page w).result = some (.ok stopped)) (stops : stopped.StopsAt f) :
    (c.hardened.course r page w).calls <+: (c.course r page w).calls ∧
      ∀ report, (c.course r page w).result = some (.ok report) →
        report.failures.head? = some f.report := by
  rcases (runHere_agree ignores c).perform page w with
    ⟨same, -⟩ | ⟨g, x, other, ⟨report, rfl, stopsHere⟩, calls, told⟩
  · change c.course r page w = c.hardened.course r page w at same
    rw [same, ended]
    refine ⟨List.prefix_rfl, ?_⟩
    rintro _ ⟨⟩
    exact stops.failures.first
  · obtain rfl : stopped = report := by
      simpa using ended.symm.trans other
    have alike : f.report = g.report := by
      simpa using stops.failures.first.symm.trans stopsHere.failures.first
    exact ⟨calls, fun report ran => alike ▸ told _ ran report rfl⟩

variable {c c' : TestCase} (same : c.hardened = c'.hardened)

include same

theorem part_of_stops {f : StepFault} {stopped : RunReport}
    (ended : (c.hardened.course r page w).result = some (.ok stopped)) (stops : stopped.StopsAt f) :
    Course.PartAt f (c.hardened.course r page w) (c.course r page w) (c'.course r page w) := by
  obtain ⟨calls, first⟩ := course_of_stops ignores page w ended stops
  obtain ⟨calls', second⟩ := course_of_stops ignores page w (c := c') (same ▸ ended) stops
  exact ⟨⟨stopped, ended, stops⟩, ⟨calls, same ▸ calls'⟩,
    fun report ran => ran.elim (first report) (second report)⟩

theorem courses_part :
    c'.course r page w = c.course r page w ∨
      ∃ f, Course.PartAt f (c.hardened.course r page w) (c.course r page w)
        (c'.course r page w) := by
  rcases course_hardened ignores page w c with ⟨first, -⟩ | ⟨f, stopped, ended, stops⟩
  · rcases course_hardened ignores page w c' with ⟨second, -⟩ | ⟨f, stopped, ended, stops⟩
    · exact .inl (by rw [second, first, same])
    · exact .inr ⟨f, part_of_stops ignores page w same (same ▸ ended) stops⟩
  · exact .inr ⟨f, part_of_stops ignores page w same ended stops⟩

theorem part_of_assertion {report : RunReport}
    (ended : (c.course r page w).result = some (.ok report)) (fails : ¬ report.AssertionsHold) :
    ∃ f, Course.PartAt f (c.hardened.course r page w) (c.course r page w)
      (c'.course r page w) := by
  rcases course_hardened ignores page w c with ⟨first, firm⟩ | ⟨f, stopped, ended, stops⟩
  · obtain ⟨error, sole, aborted⟩ := firm report ended
    simp only [RunReport.AssertionsHold, Classical.not_forall, Classical.not_not] at fails
    obtain ⟨text, member, message, labelled⟩ := fails
    obtain rfl : error = some text := sole.only text member
    obtain ⟨f, -, told⟩ :=
      (course_tells (fun s _ => s.failsOnly_any r) ended).1 text member
    have code : f.code = .assertionFailed := FaultCode.label_injective (told.symm.trans labelled)
    have stops : report.StopsAt f :=
      ⟨(f.isAssertion_iff_code).mpr code, aborted.mpr rfl, told ▸ sole⟩
    exact ⟨f, part_of_stops ignores page w same (first ▸ ended) stops⟩
  · exact ⟨f, part_of_stops ignores page w same ended stops⟩

theorem alike_of_assertionsHold {report : RunReport}
    (ended : (c.course r page w).result = some (.ok report) ∨
      (c'.course r page w).result = some (.ok report)) (holds : report.AssertionsHold) :
    c'.course r page w = c.course r page w := by
  rcases courses_part ignores page w same with alike | ⟨f, part⟩
  · exact alike
  · obtain ⟨stopped, -, stops⟩ := part.stops
    have code : f.code = .assertionFailed := (f.isAssertion_iff_code).mp stops.assertion
    have labelled : f.report = FaultCode.assertionFailed.label f.message := by
      rw [StepFault.report, code]
    exact absurd labelled (holds _ (List.mem_of_head? (part.failure report ended)) _)

theorem status_eq_of_hardened_eq {report other : RunReport}
    (ended : (c.course r page w).result = some (.ok report))
    (ended' : (c'.course r page w).result = some (.ok other)) : report.status = other.status := by
  rcases courses_part ignores page w same with alike | ⟨f, part⟩
  · obtain rfl : report = other := by simpa [alike, ended] using ended'
    rfl
  · have first := part.failure report (.inl ended)
    have second := part.failure other (.inr ended')
    rw [(course_consistent ended).failed_of_first first,
      (course_consistent ended').failed_of_first second]

omit ignores in
theorem reports_of_steady (some_ : c.steps ≠ []) (steady : r.registry.Steady) :
    ∃ report other, (c.course r page w).result = some (.ok report) ∧
      (c'.course r page w).result = some (.ok other) := by
  have some_' : c'.steps ≠ [] := by
    have steps := congrArg (·.steps.length) same
    have positive := List.length_pos_iff.mpr some_
    simp only [hardened, List.length_map] at steps
    exact List.length_pos_iff.mp (steps ▸ positive)
  obtain ⟨report, ended⟩ := course_ok_of_steady some_ steady page w
  obtain ⟨other, ended'⟩ := course_ok_of_steady some_' steady page w
  exact ⟨report, other, ended, ended'⟩

end

/-- What soft flags leave as it is in the runs of two cases that differ in nothing else. -/
structure SoftFlagsAside (c c' : TestCase) (r : Runner) (page : Page σ)
    (w : World σ) : Prop where
  verdict : ∀ report other, (c.course r page w).result = some (.ok report) →
    (c'.course r page w).result = some (.ok other) → report.status = other.status
  reported : c.steps ≠ [] → r.registry.Steady → ∃ report other,
    (c.course r page w).result = some (.ok report) ∧
      (c'.course r page w).result = some (.ok other)
  alike : ∀ report, (c.course r page w).result = some (.ok report) ∨
    (c'.course r page w).result = some (.ok report) → report.AssertionsHold →
      c'.course r page w = c.course r page w
  parted : ∀ report, (c.course r page w).result = some (.ok report) → ¬ report.AssertionsHold →
    ∃ f, Course.PartAt f (c.hardened.course r page w) (c.course r page w) (c'.course r page w)
  alike_or_parted : c'.course r page w = c.course r page w ∨
    ∃ f, Course.PartAt f (c.hardened.course r page w) (c.course r page w) (c'.course r page w)
  softFailures : ∀ report, (c.course r page w).result = some (.ok report) →
    ∀ s ∈ report.softFailures, ∃ f : StepFault,
      f.code = .assertionFailed ∧ s.message = f.report
  misconfigured : ∀ (v : Validation) (inherited : Option Target) code,
    v.Misconfigured r inherited.isSome code → ∃ f,
      (∀ soft, (v.withSoft soft).evaluate r inherited = throw f) ∧ f.isAssertion = false ∧
        v.Misconfigured r inherited.isSome f.code
  aborted : ∀ report, (c.course r page w).result = some (.ok report) →
    ∀ (i : Nat) s e, c.steps[i]? = some s → report.steps[i]? = some e → s.Misconfigured r →
      (s.iterate = true → s.selects = true → e.iterations ≠ []) →
        e.error.isSome ∧ report.outcome = .aborted ∧ report.steps.length = i + 1

/-- Soft flags do not change the verdict of a run, nor anything of it before the first assertion
that fails, and they cannot keep a misconfigured validation from ending the run. -/
theorem soft_flags_keep_verdict (c c' : TestCase) (r : Runner) (same : c.hardened = c'.hardened)
    (ignores : r.registry.IgnoresSoft) (page : Page σ) (w : World σ) :
    c.SoftFlagsAside c' r page w ∧ Registry.builtin.IgnoresSoft := by
  refine ⟨?_, Registry.builtin_ignoresSoft⟩
  constructor
  case verdict =>
    exact fun report other ended ended' => status_eq_of_hardened_eq ignores page w same ended ended'
  case reported => exact fun some_ steady => reports_of_steady page w same some_ steady
  case alike =>
    exact fun report ended holds => alike_of_assertionsHold ignores page w same ended holds
  case parted => exact fun report ended fails => part_of_assertion ignores page w same ended fails
  case alike_or_parted => exact courses_part ignores page w same
  case softFailures =>
    intro report ended s soft
    obtain ⟨f, ⟨-, assertion⟩, told⟩ :=
      (course_tells (fun s _ => s.failsOnly_any r) ended).2 s soft
    exact ⟨f, (f.isAssertion_iff_code).mp assertion, told⟩
  case misconfigured => exact fun v inherited code bad => bad.evaluate_throws
  case aborted =>
    intro report ended i s e at_ shown bad reached
    exact course_misconfigured ended at_ shown bad reached

/-- The soft failure of the sample ends the run when it is made hard. -/
theorem rows_soft_flags_keep_verdict :
    Sample.rows.hardened = Sample.rows.hardened.hardened ∧
      Sample.runner.registry.IgnoresSoft ∧
      ∃ f, Course.PartAt f
        (Sample.rows.hardened.course Sample.runner MemoryPage.page Sample.start)
        (Sample.rows.course Sample.runner MemoryPage.page Sample.start)
        (Sample.rows.hardened.course Sample.runner MemoryPage.page Sample.start) := by
  have same : Sample.rows.hardened = Sample.rows.hardened.hardened := rfl
  have aside := (soft_flags_keep_verdict Sample.rows Sample.rows.hardened Sample.runner same
    Registry.builtin_ignoresSoft MemoryPage.page Sample.start).1
  refine ⟨same, Registry.builtin_ignoresSoft, aside.alike_or_parted.resolve_left ?_⟩
  intro alike
  have entries : (Sample.rows.course Sample.runner MemoryPage.page Sample.start).result.map
      (·.toOption.map (·.steps.length)) = some (some 2) := by decide +kernel
  rw [← alike] at entries
  exact absurd entries (by decide +kernel)

end TestCase

end Walkthrough
