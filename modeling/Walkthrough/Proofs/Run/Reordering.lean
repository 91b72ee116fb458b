import Mathlib.Data.List.Forall2
import Walkthrough.Proofs.Check.Reading
import Walkthrough.Proofs.Run.Hardened
import Walkthrough.Proofs.Run.Performance

/-!
The order of validations. On a page in memory runs of two cases whose validations stand in another
order come to the same: permuting them changes which failure is told, but not that one is.
-/
namespace Walkthrough

structure Step.Reordered (s s' : Step) : Prop where
  same : s' = { s with validations := s'.validations }
  checks : s.validations.Perm s'.validations

structure TestCase.Reordered (c c' : TestCase) : Prop where
  same : c' = { c with steps := c'.steps }
  steps : List.Forall₂ Step.Reordered c.steps c'.steps

/-- No handler of an action reads the validations of its step. -/
def Registry.IgnoresChecks (r : Registry) : Prop :=
  ∀ name handler, r.action? name = some handler →
    ∀ (s : Step) vs, handler { s with validations := vs } = handler s

theorem Registry.builtin_ignoresChecks : Registry.builtin.IgnoresChecks := by
  intro name handler found s vs
  rcases builtin_action found with rfl | rfl
  · rfl
  · rfl

/-- The rounds both end with a fault or both do not, and both fail or both do not. -/
structure Round.Alike (a b : Round) : Prop where
  fault : a.fault.isSome = b.fault.isSome
  failed : a.failed = b.failed

namespace Round

theorem Alike.refl (a : Round) : a.Alike a := ⟨rfl, rfl⟩

theorem Alike.entry_status {a b : Round} (h : a.Alike b) (i : Nat) :
    (a.entry i).status = (b.entry i).status := congrArg Status.ofFailure h.failed

def held : Except StepFault Verdict → Bool
  | .ok .passed => true
  | _ => false

theorem ofResults_fault (results : List (Except StepFault Verdict)) :
    (ofResults results).fault.isSome = results.any (!·.isOk) := by
  induction results with
  | nil => rfl
  | cons x rest ih =>
    rcases x with fault | verdict
    · rfl
    · cases verdict <;> simpa [ofResults, afterVerdict, Except.isOk, Except.toBool] using ih

theorem ofResults_failed (results : List (Except StepFault Verdict)) :
    (ofResults results).failed = results.any (!held ·) := by
  induction results with
  | nil => rfl
  | cons x rest ih =>
    rcases x with fault | verdict
    · rfl
    · cases verdict with
      | passed => simpa [ofResults, afterVerdict, held] using ih
      | softFailed failure => simp [ofResults, afterVerdict, failed, held]

theorem ofResults_alike {results results' : List (Except StepFault Verdict)}
    (perm : results.Perm results') : (ofResults results).Alike (ofResults results') := by
  constructor
  · rw [ofResults_fault, ofResults_fault, perm.any_eq]
  · rw [ofResults_failed, ofResults_failed, perm.any_eq]

end Round

structure StepCourse.Alike (c d : StepCourse) : Prop where
  fault : c.fault.isSome = d.fault.isSome
  failed : c.failed = d.failed
  iterations : c.iterations.map (·.status) = d.iterations.map (·.status)

namespace StepCourse

theorem Alike.refl (c : StepCourse) : c.Alike c := ⟨rfl, rfl, rfl⟩

theorem alike_ofRound {a b : Round} (h : a.Alike b) : (ofRound a).Alike (ofRound b) := by
  refine ⟨h.fault, ?_, rfl⟩
  have failed := h.failed
  simp only [Round.failed] at failed
  simp only [StepCourse.failed, ofRound, failed]

theorem alike_ofIterations {iterations iterations' : List Iteration}
    {fault fault' : Option StepFault}
    (statuses : iterations.map (·.status) = iterations'.map (·.status))
    (faults : fault.isSome = fault'.isSome) :
    Alike { iterations, fault } { iterations := iterations', fault := fault' } := by
  refine ⟨faults, ?_, statuses⟩
  have anyFailed :
      iterations.any (·.status == .failed) = iterations'.any (·.status == .failed) := by
    simpa [Function.comp_def] using congrArg (·.any (· == .failed)) statuses
  simp only [failed, faults, anyFailed]

end StepCourse

namespace Step

variable {r : Runner} (builtin : r.registry = .builtin) {s s' : Step}

include builtin

theorem act_alike (s : Step) (target : Option Target) :
    Play.Alike MemoryPage.page Eq (s.act r target).run (s.act r target).run := by
  have timeless : r.registry.Timeless := builtin ▸ Registry.builtin_timeless
  exact Play.alike_of_later (fun k => (Play.later_congruence k).act (timeless k) s target) _

theorem evaluateAll_alike {vs vs' : List Validation} (perm : vs.Perm vs')
    (target : Option Target) :
    Play.Alike MemoryPage.page Round.Alike (evaluateAll r target vs)
      (evaluateAll r target vs') := by
  intro w v worlds
  obtain ⟨verdict, verdicts⟩ := exists_verdicts builtin target w
  obtain ⟨result, untouched⟩ := evaluateAll_perform builtin verdicts.alone vs (.refl w)
  obtain ⟨result', untouched'⟩ := evaluateAll_perform builtin verdicts.alone vs' worlds
  -- Both lists are judged by one set of verdicts, that of the first world.
  refine ⟨?_, untouched.alike.symm.trans (worlds.trans untouched'.alike)⟩
  rw [result, result']
  exact .some (Round.ofResults_alike (perm.map verdict))

theorem round_alike (h : s.Reordered s') (target : Option Target) :
    Play.Alike MemoryPage.page Round.Alike (s.round r target) (s'.round r target) := by
  have ignores : r.registry.IgnoresChecks := builtin ▸ Registry.builtin_ignoresChecks
  have acts : s'.act r target = s.act r target := by
    rw [h.same]
    exact act_withChecks (fun handler found => ignores _ handler found s _) target
  have pauses : s'.pauseAfter = s.pauseAfter := by rw [h.same]; rfl
  simp only [round, acts, pauses]
  refine Play.alike_bind (act_alike builtin s target) ?_
  rintro (fault | _) _ rfl
  · exact Play.alike_pure (.refl _)
  · have paused : Play.Alike MemoryPage.page Eq s.pauseAfter.run s.pauseAfter.run :=
      Play.alike_of_later (fun k => (Play.later_congruence k).pauseAfter s) _
    refine Play.alike_bind paused ?_
    rintro (fault | _) _ rfl
    · exact Play.alike_pure (.refl _)
    · exact evaluateAll_alike builtin h.checks target

theorem rounds_alike (h : s.Reordered s') (base : Target) (place count : Nat) :
    Play.Alike MemoryPage.page
      (fun ran ran' => ran.1.map (·.status) = ran'.1.map (·.status) ∧ ran.2.isSome = ran'.2.isSome)
      (s.rounds r base place count) (s'.rounds r base place count) := by
  induction count generalizing place with
  | zero => exact Play.alike_pure ⟨rfl, rfl⟩
  | succ count ih =>
    refine Play.alike_bind (round_alike builtin h _) fun this other alike => ?_
    have status := alike.entry_status place
    have faults := alike.fault
    cases fault : this.fault with
    | some f =>
      cases fault' : other.fault with
      | some g => exact Play.alike_pure ⟨by simp [status], rfl⟩
      | none => simp [fault, fault'] at faults
    | none =>
      cases fault' : other.fault with
      | some g => simp [fault, fault'] at faults
      | none =>
        refine Play.alike_bind (ih (place + 1)) fun later later' statuses => ?_
        exact Play.alike_pure ⟨by simp [status, statuses.1], statuses.2⟩

theorem drive_alike (h : s.Reordered s') :
    Play.Alike MemoryPage.page StepCourse.Alike (s.drive r) (s'.drive r) := by
  have selection : s'.selection = s.selection := by rw [h.same]; rfl
  have iterates : s'.iterate = s.iterate := by rw [h.same]
  have counts (base : Target) : s'.call (.count base) = s.call (.count base) := by rw [h.same]; rfl
  have once (target : Option Target) : Play.Alike MemoryPage.page StepCourse.Alike
      (s.round r target >>= fun this => pure (.ofRound this))
      (s'.round r target >>= fun this => pure (.ofRound this)) :=
    Play.alike_bind (round_alike builtin h target) fun _ _ alike =>
      Play.alike_pure (StepCourse.alike_ofRound alike)
  simp only [drive, selection, iterates]
  split
  · exact Play.alike_pure (.refl _)
  · exact once none
  · rename_i base _
    split
    · have counted : Play.Alike MemoryPage.page Eq (s.call (.count base)).run
          (s.call (.count base)).run :=
        Play.alike_of_later (fun k => (Play.later_congruence k).stepCall s (by simp)) _
      simp only [iterateOver, counts]
      refine Play.alike_bind counted ?_
      rintro (fault | count) _ rfl
      · exact Play.alike_pure (.refl _)
      · refine Play.alike_bind (rounds_alike builtin h base 0 count) fun ran ran' alike => ?_
        exact Play.alike_pure (StepCourse.alike_ofIterations alike.1 alike.2)
    · exact once (some base)

end Step

def StepEntry.statuses (e : StepEntry) : Status × List Status :=
  (e.status, e.iterations.map (·.status))

/-- The reports tell of the same steps, all with the same statuses. -/
structure RunReport.Alike (a b : RunReport) : Prop where
  status : a.status = b.status
  outcome : a.outcome = b.outcome
  executed : a.steps.length = b.steps.length
  steps : a.steps.map StepEntry.statuses = b.steps.map StepEntry.statuses

theorem Step.entry_statuses {c d : StepCourse} (h : c.Alike d) (s s' : Step)
    (position start start' finish finish' : Nat) :
    (s.entry position start finish c).statuses = (s'.entry position start' finish' d).statuses :=
  Prod.ext (congrArg Status.ofFailure h.failed) h.iterations

theorem RunReport.alike_ofEntries {entries entries' : List StepEntry}
    (same : entries.map StepEntry.statuses = entries'.map StepEntry.statuses) (id : RunId)
    (description : String) (start finish finish' : Nat) (outcome : Outcome) :
    (ofEntries id description start finish outcome entries).Alike
      (ofEntries id description start finish' outcome entries') where
  status := by
    have passes : entries.all (·.status == .passed) = entries'.all (·.status == .passed) := by
      simpa [StepEntry.statuses, Function.comp_def] using congrArg (·.all (·.1 == .passed)) same
    simp only [ofEntries, passes]
  outcome := rfl
  executed := by simpa [ofEntries] using congrArg List.length same
  steps := same

section

variable {r : Runner} (builtin : r.registry = .builtin)

include builtin

theorem Step.runAll_alike {steps steps' : List Step} (h : List.Forall₂ Step.Reordered steps steps')
    (position : Nat) :
    Play.Alike MemoryPage.page (fun ran ran' =>
        ran.1.map StepEntry.statuses = ran'.1.map StepEntry.statuses ∧ ran.2 = ran'.2)
      (runAll r position steps) (runAll r position steps') := by
  induction h generalizing position with
  | nil => exact Play.alike_pure ⟨rfl, rfl⟩
  | @cons s s' rest rest' step _ ih =>
    refine Play.alike_clock_bind fun start start' => ?_
    refine Play.alike_bind (drive_alike builtin step) fun course course' alike => ?_
    refine Play.alike_clock_bind fun finish finish' => ?_
    have this := entry_statuses alike s s' position start start' finish finish'
    simp only [alike.fault]
    split
    · exact Play.alike_pure ⟨by simp [this], rfl⟩
    · refine Play.alike_bind (ih (position + 1)) ?_
      rintro ran ran' ⟨entries, outcome⟩
      exact Play.alike_pure ⟨by simp [this, entries], outcome⟩

namespace TestCase

/-- What the runs of two cases on a page in memory have in common. -/
structure RunsAlike (c c' : TestCase) (r : Runner) (w : World MemoryPage) : Prop where
  empty : c.steps = [] → c'.course r MemoryPage.page w = c.course r MemoryPage.page w
  reported : c.steps ≠ [] → ∃ report other,
    (c.course r MemoryPage.page w).result = some (.ok report) ∧
      (c'.course r MemoryPage.page w).result = some (.ok other) ∧ report.Alike other
  world : (c.course r MemoryPage.page w).world.Alike (c'.course r MemoryPage.page w).world

theorem runsAlike_of_reordered {c c' : TestCase} (h : c.Reordered c') (w : World MemoryPage) :
    c.RunsAlike c' r w := by
  have description : c'.description = c.description := by rw [h.same]
  have empty_iff : c'.steps = [] ↔ c.steps = [] := by
    rw [← List.length_eq_zero_iff, ← List.length_eq_zero_iff, h.steps.length_eq]
  by_cases none : c.steps = []
  · have same : c'.course r MemoryPage.page w = c.course r MemoryPage.page w := by
      rw [course_of_nil c r none, course_of_nil c' r (empty_iff.mpr none), description]
    exact ⟨fun _ => same, fun some_ => absurd none some_, same ▸ .refl _⟩
  · have none' : c'.steps ≠ [] := fun eq => none (empty_iff.mp eq)
    have steady : r.registry.Steady := builtin ▸ Registry.builtin_steady
    have courses := Step.runAll_alike builtin h.steps 0 (w.withIds (w.ids + 1)) _ (.refl _)
    obtain ⟨report, ended⟩ := course_ok_of_steady none steady MemoryPage.page w
    obtain ⟨other, ended'⟩ := course_ok_of_steady none' steady MemoryPage.page w
    refine ⟨fun eq => absurd eq none, fun _ => ⟨report, other, ended, ended', ?_⟩, ?_⟩
    · obtain ⟨-, finish, entries, outcome, ran, rfl⟩ := course_ok ended
      obtain ⟨-, finish', entries', outcome', ran', rfl⟩ := course_ok ended'
      have related := courses.result
      rw [ran, ran', Option.rel_some_some] at related
      obtain ⟨same, rfl⟩ := related
      rw [description]
      exact RunReport.alike_ofEntries same ..
    · rw [course_eq c r none, course_eq c' r none']
      exact courses.world

end TestCase

end

/-- On a page in memory every validation has its own verdict, wherever it stands, and runs of cases
that differ in the order of validations have the same statuses and leave the same page. -/
theorem TestCase.reordered_runs_alike (r : Runner) (builtin : r.registry = .builtin) :
    (∀ target w, ∃ verdict, Step.Verdicts r target w verdict) ∧
      ∀ c c' : TestCase, c.Reordered c' → ∀ w, c.RunsAlike c' r w :=
  ⟨Step.exists_verdicts builtin, fun _ _ h w => runsAlike_of_reordered builtin h w⟩

namespace Sample

def doubtful : Validation := { kind := .toHaveText, data := some (.string "two"), soft := true }

def certain : Validation := { kind := .toHaveText, data := some (.string "three") }

def glance (checks : List Validation) : TestCase where
  description := "glance"
  steps := [{ action := .hover, selector := some "li", iterate := true, validations := checks }]

/-- The soft failure is only told when it comes first, and the run fails in both orders. -/
theorem glance_runs_alike :
    runner.registry = .builtin ∧
      (glance [doubtful, certain]).Reordered (glance [certain, doubtful]) ∧ ∃ report other,
        ((glance [doubtful, certain]).course runner MemoryPage.page start).result =
          some (.ok report) ∧
        ((glance [certain, doubtful]).course runner MemoryPage.page start).result =
          some (.ok other) ∧ report.Alike other ∧ report.steps ≠ other.steps := by
  have reordered : (glance [doubtful, certain]).Reordered (glance [certain, doubtful]) :=
    ⟨rfl, .cons ⟨rfl, .swap ..⟩ .nil⟩
  obtain ⟨report, other, ended, ended', alike⟩ :=
    ((TestCase.reordered_runs_alike runner rfl).2 _ _ reordered start).reported (by decide)
  refine ⟨rfl, reordered, report, other, ended, ended', alike, fun same => ?_⟩
  let told (x : Option (Except StepFault RunReport)) : Option (Option (List (List Nat))) :=
    x.map (·.toOption.map (·.steps.map (·.iterations.map (·.softFailures.length))))
  have once : told (some (.ok report)) = some (some [[1]]) := by
    rw [← ended]
    decide +kernel
  have never : told (some (.ok other)) = some (some [[0]]) := by
    rw [← ended']
    decide +kernel
  simp only [told, Option.map_some, Except.toOption, same] at once never
  simp [once] at never

end Sample

end Walkthrough
