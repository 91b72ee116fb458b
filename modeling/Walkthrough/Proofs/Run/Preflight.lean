import Walkthrough.Proofs.Check.Misconfigured
import Walkthrough.Proofs.Document.Accepted
import Walkthrough.Proofs.Fault.Label
import Walkthrough.Proofs.Run.Custody

/-!
The checks made before a run are complete: a run of a test case in which they find no problem fails
for nothing that the document could have told.
-/
namespace Walkthrough

/-- The faults of which the document gives no sign, under settings that may want targets. -/
def StepFault.PastPreflight (settings : RunSettings) : StepFault → Prop
  | .action _ _ | .actionTimeout _ _ => True
  | .assertion _ (.badPattern _ _) => False
  | .assertion _ _ => True
  | .targetRequired _ => settings.strictTargets = true
  | _ => False

theorem getD_ne_empty_of_nonEmpty {text : Option String} {t : String}
    (given : nonEmpty? text = some t) : text.getD "" = t ∧ t ≠ "" := by
  obtain ⟨rfl, nonempty⟩ := Option.filter_eq_some_iff.mp given
  exact ⟨rfl, by simpa using nonempty⟩

namespace Validation

variable {v : Validation} {r : Registry}

theorem pattern_ok_of_accepted (accepted : v.kindProblems r = [])
    (matches_ : v.kind = .toHaveUrl ∨ v.kind = .toHaveClass) : ∃ p, v.pattern = .ok p := by
  cases parsed : Pattern.parse v.dataText with
  | ok p => exact ⟨p, by simp [pattern, parsed]⟩
  | error fault =>
    rcases matches_ with kind | kind
    · simp [kindProblems, kind, parsed] at accepted
    · simp [kindProblems, kind, parsed] at accepted

theorem requireText_of_accepted {f : StepFault} {text : Option String}
    {p : List ValidationProblem} (some_ : p ≠ [])
    (accepted : (if (nonEmpty? text).isNone then p else []) = []) :
    ∃ t, requireText f text = .ok t := by
  cases given : nonEmpty? text with
  | none => simp [given, some_] at accepted
  | some t =>
    obtain ⟨same, nonempty⟩ := getD_ne_empty_of_nonEmpty given
    exact requireText_given (same ▸ nonempty)

theorem assertion?_ok_of_accepted (accepted : v.kindProblems r = []) {target : Option Target}
    (found : v.kind.needsTarget = true → target.isSome) : ∃ a, v.assertion? target = .ok a := by
  have required (needed : v.kind.needsTarget = true) : ∃ t, v.requireTarget target = .ok t := by
    obtain ⟨t, rfl⟩ := Option.isSome_iff_exists.mp (found needed)
    exact ⟨t, rfl⟩
  cases kind : v.kind with
  | toBeVisible | toBeHidden | toHaveText | toHaveValue =>
    obtain ⟨t, ht⟩ := required (by rw [kind]; rfl)
    exact ⟨_, by simp only [assertion?, kind, ht]; rfl⟩
  | toHaveTitle | custom | unknown => exact ⟨_, by simp only [assertion?, kind]; rfl⟩
  | toHaveUrl =>
    obtain ⟨p, hp⟩ := pattern_ok_of_accepted accepted (.inl kind)
    exact ⟨_, by simp only [assertion?, kind, hp]; rfl⟩
  | toHaveClass =>
    obtain ⟨t, ht⟩ := required (by rw [kind]; rfl)
    obtain ⟨p, hp⟩ := pattern_ok_of_accepted accepted (.inr kind)
    exact ⟨_, by simp only [assertion?, kind, ht, hp]; rfl⟩
  | toHaveAttribute =>
    obtain ⟨t, ht⟩ := required (by rw [kind]; rfl)
    simp only [kindProblems, kind] at accepted
    obtain ⟨name, given⟩ := requireText_of_accepted (f := .missingAttributeKey) (by simp) accepted
    exact ⟨_, by simp only [assertion?, kind, ht, given]; rfl⟩
  | toHaveCss =>
    obtain ⟨t, ht⟩ := required (by rw [kind]; rfl)
    simp only [kindProblems, kind] at accepted
    obtain ⟨name, given⟩ := requireText_of_accepted (f := .missingCssPropertyKey) (by simp) accepted
    exact ⟨_, by simp only [assertion?, kind, ht, given]; rfl⟩

theorem callHandler_gives {settings : RunSettings} {registry : Registry} (kind : v.kind = .custom)
    (accepted : v.kindProblems registry = []) (scope : Scope) :
    (v.callHandler registry scope).Gives (fun _ => True) (·.PastPreflight settings) := by
  simp only [kindProblems, kind] at accepted
  split at accepted
  · cases accepted
  · rename_i name given
    obtain ⟨same, -⟩ := getD_ne_empty_of_nonEmpty given
    obtain ⟨handler, found⟩ : ∃ handler, registry.validation? name = some handler :=
      Option.ne_none_iff_exists'.mp (by simpa using accepted)
    simp only [callHandler, same, found]
    refine Attempt.gives_bind (Attempt.gives_result (Attempt.gives_any _)) fun x _ => ?_
    split
    · exact Attempt.gives_pure trivial
    · exact Attempt.gives_throw trivial

theorem check_gives {r : Runner} (accepted : v.kindProblems r.registry = []) {scope : Scope}
    (found : v.kind.needsTarget = true → scope.target.isSome) :
    (v.check r scope).Gives (fun _ => True) (·.PastPreflight r.settings) := by
  unfold check
  split
  · rename_i kind
    exact callHandler_gives kind accepted scope
  · rename_i name kind
    simp [kindProblems, kind] at accepted
  · obtain ⟨a, asserts⟩ := assertion?_ok_of_accepted accepted found
    rw [asserts]
    cases a with
    | none => exact Attempt.gives_pure trivial
    | some a =>
      refine Attempt.gives_bind (Attempt.gives_ofPlay (Play.yields_any _)) fun x _ => ?_
      split
      · exact Attempt.gives_pure trivial
      · exact Attempt.gives_throw trivial

theorem evaluate_gives {r : Runner} {inherited : Option Target}
    (accepted : v.Accepted r.registry inherited.isSome) :
    (v.evaluate r inherited).Gives (Verdict.Tells (·.PastPreflight r.settings))
      (·.PastPreflight r.settings) := by
  obtain ⟨own, found⟩ := Selection.target?_ok_of_strategy accepted.strategy
  refine evaluate_tells (fun f unsupported => ?_) fun target expect same => ?_
  · rw [found] at unsupported
    cases unsupported
  · refine check_gives accepted.kind fun needed => ?_
    have selects := Selection.target?_isSome same
    have selector := accepted.selector
    simp only [selectorProblems, needed] at selector
    cases inherited with
    | some t => simp
    | none =>
      have own_selects : v.selection.selector?.isSome := by
        simpa [Option.isSome_iff_ne_none] using selector
      simpa [selects] using own_selects

end Validation

namespace Step

variable {s : Step} {r : Runner}

theorem call_gives {settings : RunSettings} (c : Call) :
    (s.call c).Gives (fun _ => True) (·.PastPreflight settings) := by
  refine Attempt.gives_bind (Attempt.gives_ofPlay (Play.yields_any _)) fun x _ => ?_
  split
  · exact Attempt.gives_pure trivial
  · exact Attempt.gives_throw trivial

theorem interact_gives {settings : RunSettings} (target : Option Target)
    (interacts : ∀ t, (s.interaction? t).isSome) :
    (s.interact target).Gives (fun _ => True) (·.PastPreflight settings) := by
  cases target with
  | none => exact Attempt.gives_pure trivial
  | some t =>
    obtain ⟨c, made⟩ := Option.isSome_iff_exists.mp (interacts t)
    simp only [interact, made]
    exact Attempt.gives_bind (call_gives c) fun _ _ => Attempt.gives_pure trivial

theorem upload_gives {settings : RunSettings} (directory : String) {target : Option Target}
    (source : Upload.hasSource s = true) (found : target.isSome) :
    (s.upload directory target).Gives (fun _ => True) (·.PastPreflight settings) := by
  obtain ⟨t, rfl⟩ := Option.isSome_iff_exists.mp found
  unfold upload
  dsimp only
  split
  · rename_i f fails
    obtain ⟨fault, rfl⟩ := Upload.collect_error_of_hasSource source fails
    exact Attempt.gives_throw trivial
  · split
    · exact Attempt.gives_bind (call_gives _) fun _ _ => call_gives _
    · exact call_gives _

theorem callHandler_gives {settings : RunSettings} {registry : Registry}
    (kind : s.action = .custom) (accepted : s.actionProblems registry = []) :
    (s.callHandler registry).Gives (fun _ => True) (·.PastPreflight settings) := by
  simp only [actionProblems, kind] at accepted
  split at accepted
  · cases accepted
  · rename_i name given
    obtain ⟨same, -⟩ := getD_ne_empty_of_nonEmpty given
    obtain ⟨handler, found⟩ : ∃ handler, registry.action? name = some handler :=
      Option.ne_none_iff_exists'.mp (by simpa using accepted)
    simp only [callHandler, same, found]
    refine Attempt.gives_bind (Attempt.gives_result (Attempt.gives_any _)) fun x _ => ?_
    split
    · exact Attempt.gives_pure trivial
    · exact Attempt.gives_throw trivial

theorem unlimited_gives {settings : RunSettings} (accepted : s.actionProblems r.registry = [])
    {target : Option Target} (selected : target.isSome = s.selects) :
    (s.unlimited r target).Gives (fun _ => True) (·.PastPreflight settings) := by
  unfold unlimited
  split <;> rename_i action
  · exact call_gives _
  iterate 5 exact interact_gives target fun t => by simp [interaction?, action]
  · simp only [actionProblems, action, List.append_eq_nil_iff] at accepted
    refine upload_gives r.directory (by simpa using accepted.1) ?_
    rw [selected]
    simpa using accepted.2
  · exact pause_gives call_gives
  · exact callHandler_gives action accepted
  · simp [actionProblems, action] at accepted

theorem limited_gives {settings : RunSettings} (limit : Nat) {p : Attempt StepFault Unit}
    (h : p.Gives (fun _ => True) (·.PastPreflight settings)) :
    (s.limited limit p).Gives (fun _ => True) (·.PastPreflight settings) := by
  refine Attempt.gives_bind (Attempt.gives_ofPlay (Play.yields_limited limit h)) fun x ends => ?_
  split
  · exact Attempt.gives_pure trivial
  · exact Attempt.gives_throw (ends _ rfl)
  · exact Attempt.gives_throw trivial

theorem act_gives (accepted : s.actionProblems r.registry = []) {target : Option Target}
    (selected : target.isSome = s.selects) :
    (s.act r target).Gives (fun _ => True) (·.PastPreflight r.settings) := by
  unfold act
  split
  · rename_i name action
    simp [actionProblems, action] at accepted
  · exact pause_gives call_gives
  · split
    · rename_i lacks
      refine Attempt.gives_throw ?_
      simp only [lacksTarget, Bool.and_eq_true] at lacks
      exact lacks.2
    · exact limited_gives _ (unlimited_gives accepted selected)

theorem failsOnly_of_accepted (accepted : s.Accepted r.registry) :
    s.FailsOnly r (·.PastPreflight r.settings) where
  selection f unsupported := by
    obtain ⟨target, found⟩ := Selection.target?_ok_of_strategy accepted.strategy
    rw [found] at unsupported
    cases unsupported
  call := call_gives
  act _ selected := act_gives accepted.action selected
  validation v member target selected :=
    Validation.evaluate_gives (selected ▸ accepted.validations v member)

end Step

theorem StepFault.PastPreflight.code {settings : RunSettings} {f : StepFault}
    (h : f.PastPreflight settings) :
    f.code = .actionFailed ∨ f.code = .actionTimeout ∨ f.code = .assertionFailed ∨
      (f.code = .targetRequired ∧ settings.strictTargets = true) := by
  cases f with
  | action | actionTimeout | assertion => simp [StepFault.code]
  | targetRequired name => exact .inr (.inr (.inr ⟨rfl, h⟩))
  | _ => exact h.elim

/-- Nothing failed that the document could have told; the codes are those of actions and assertions,
and that of a missing target if targets are required. -/
structure RunReport.PastPreflight (settings : RunSettings) (report : RunReport) : Prop where
  failures : ∀ text ∈ report.failures, StepFault.Told (·.PastPreflight settings) text
  softFailures : ∀ s ∈ report.softFailures, s.Tells (·.PastPreflight settings)
  codes : ∀ text ∈ report.failures, ∀ (code : FaultCode) message, text = code.label message →
    code = .actionFailed ∨ code = .actionTimeout ∨ code = .assertionFailed ∨
      (code = .targetRequired ∧ settings.strictTargets = true)

namespace TestCase

variable {σ : Type}

/-- A handler crashes that is registered for the case and that its run calls. -/
def Crashes (c : TestCase) (r : Runner) (page : Page σ) (w : World σ) : Prop :=
  ∃ i ∈ c.invocations r page w, i.called.Of c.steps r.registry ∧ (i.course r page).result = none

theorem course_eq_none_iff (c : TestCase) (r : Runner) (page : Page σ) (w : World σ) :
    (c.course r page w).result = none ↔ c.Crashes r page w := by
  have names : r.registry.NamesIn r.registry := ⟨fun _ => id, fun _ => id⟩
  have invokes : Play.Invokes r page r.registry _ (c.runHere r).run _ _ := c.runHere_invokes names
  constructor
  · intro none
    obtain ⟨i, member, crashed⟩ := (invokes.crashed w).mp none
    exact ⟨i, member, invokes.who w i member, crashed⟩
  · rintro ⟨i, member, -, crashed⟩
    exact (invokes.crashed w).mpr ⟨i, member, crashed⟩

theorem course_pastPreflight {c : TestCase} {r : Runner}
    (accepted : c.problems r.registry r.settings = []) (page : Page σ) (w : World σ) :
    (c.Crashes r page w → (c.course r page w).result = none) ∧
      (¬ c.Crashes r page w → ∃ report, (c.course r page w).result = some (.ok report) ∧
        report.PastPreflight r.settings) := by
  obtain ⟨some_, steps⟩ := accepted_of_problems accepted
  refine ⟨(course_eq_none_iff c r page w).mpr, fun survives => ?_⟩
  rcases course_reports c r some_ page w with ⟨none, -⟩ | ⟨report, ended⟩
  · exact absurd ((course_eq_none_iff c r page w).mp none) survives
  · have told := course_tells (fun s member => Step.failsOnly_of_accepted (steps s member)) ended
    refine ⟨report, ended, told.1, told.2, ?_⟩
    intro text member code message labelled
    obtain ⟨f, left, rfl⟩ := told.1 text member
    obtain rfl : f.code = code := FaultCode.label_injective labelled
    exact left.code

/-- A case in which no problem is found before the run has a report, unless a handler for the case
crashes when the run calls it, and the report tells of no problem that could have been found. -/
theorem preflight_complete (c : TestCase) (r : Runner)
    (accepted : c.problems r.registry r.settings = []) (page : Page σ) (w : World σ) :
    (∀ course start, course = c.freshCourse r page w ∧ start = { w with context := .empty } ∨
      course = c.course r page w ∧ start = w →
        (c.Crashes r page start → course.result = none) ∧
          (¬ c.Crashes r page start → ∃ report, course.result = some (.ok report) ∧
            report.PastPreflight r.settings)) ∧
      ∀ s ∈ c.steps, ∀ v ∈ s.validations, v.kind = .toHaveUrl ∨ v.kind = .toHaveClass →
        ∃ p, v.pattern = .ok p := by
  refine ⟨?_, ?_⟩
  · rintro course start (⟨rfl, rfl⟩ | ⟨rfl, rfl⟩)
    · rw [freshCourse_eq]
      exact course_pastPreflight accepted page _
    · exact course_pastPreflight accepted page start
  · intro s member v at_ matches_
    obtain ⟨-, steps⟩ := accepted_of_problems accepted
    exact Validation.pattern_ok_of_accepted ((steps s member).validations v at_).kind matches_

open Sample

/-- The checks find nothing in the sample, and its run fails for what is on the page only, even
under a registry with a handler that would crash. -/
theorem rows_preflight_complete :
    rows.problems fragile.registry fragile.settings = [] ∧ ¬ rows.Crashes fragile MemoryPage.page
        start ∧
      ∃ report, (rows.freshCourse fragile MemoryPage.page start).result = some (.ok report) ∧
        report.PastPreflight fragile.settings := by
  have accepted : rows.problems fragile.registry fragile.settings = [] := by decide +kernel
  have uncalled : (rows.invocations fragile MemoryPage.page start).isEmpty = true := by
    decide +kernel
  have survives : ¬ rows.Crashes fragile MemoryPage.page start := by
    rintro ⟨i, member, -⟩
    simp [List.isEmpty_iff.mp uncalled] at member
  obtain ⟨runs, -⟩ := preflight_complete rows fragile accepted MemoryPage.page start
  exact ⟨accepted, survives, (runs _ _ (.inl ⟨rfl, rfl⟩)).2 survives⟩

/-- Nothing is found in a case whose handler crashes, which has no report. -/
theorem boom_unreported :
    boom.problems fragile.registry fragile.settings = [] ∧
      (boom.freshCourse fragile MemoryPage.page start).result.isNone = true := by
  decide +kernel

end TestCase

end Walkthrough
