import Walkthrough.Proofs.Fault.Label
import Walkthrough.Proofs.Handler.Builtin
import Walkthrough.Proofs.Play.Agreement
import Walkthrough.Proofs.Run.Failures

/-!
Strict settings only turn leniency into failure. A run under looser settings is the strict run
itself, unless that one stops at a fault that looser settings pass over; up to there the two are the
same.
-/
namespace Walkthrough

/-- The settings are the strict ones with some of the strict rules lifted. -/
structure RunSettings.Loosens (loose strict : RunSettings) : Prop where
  same : loose = { strict with
    strictTargets := loose.strictTargets, strictValidationTypes := loose.strictValidationTypes }
  targets : loose.strictTargets = true → strict.strictTargets = true
  types : loose.strictValidationTypes = true → strict.strictValidationTypes = true

def Runner.withSettings (r : Runner) (settings : RunSettings) : Runner :=
  { r with settings := settings }

/-- Only strict settings know the fault. -/
def StepFault.isStrict : StepFault → Bool
  | .targetRequired _ | .unsupportedValidationType _ => true
  | _ => false

theorem StepFault.isStrict_iff_code (f : StepFault) :
    f.isStrict ↔ f.code = .targetRequired ∨ f.code = .unsupportedValidationType := by
  cases f <;> simp [isStrict, code]

/-- No failure has the code of a missing target or of a validation of unknown type. -/
def RunReport.Unforced (report : RunReport) : Prop :=
  ∀ text ∈ report.failures, ∀ message,
    text ≠ FaultCode.targetRequired.label message ∧
      text ≠ FaultCode.unsupportedValidationType.label message

theorem RunReport.not_unforced {report : RunReport} {f : StepFault} (strict : f.isStrict)
    (told : f.report ∈ report.failures) : ¬ report.Unforced := by
  intro unforced
  have labels := unforced _ told f.message
  rcases f.isStrict_iff_code.mp strict with code | code
  · exact labels.1 (by rw [StepFault.report, code])
  · exact labels.2 (by rw [StepFault.report, code])

/-- The loose play and the strict one do the same, or the strict one stops for a fault that its
result shows. -/
abbrev Play.Loosened {α : Type} (shows : StepFault → α → Prop) (loose strict : Play α) : Prop :=
  Agree (fun _ => True) (fun (_ : StepFault) _ => True)
    (fun f a => f.isStrict = true ∧ shows f a) loose strict

namespace Play

variable {α β : Type} {shows : StepFault → α → Prop} {shows' : StepFault → β → Prop}

theorem loosened_pure (a : α) : Loosened shows (pure a) (pure a) := agree_pure trivial

theorem loosened_refl (p : Play α) : Loosened shows p p := by
  have same : Loosened shows (p >>= pure) (p >>= pure) := agree_then p fun a => loosened_pure a
  rwa [bind_pure] at same

theorem loosened_bind {p q : Play α} {next other : α → Play β} (h : Loosened shows p q)
    (same : ∀ a, Loosened shows' (next a) (other a))
    (stops : ∀ f a, shows f a → (other a).Concludes (shows' f)) :
    Loosened shows' (p >>= next) (q >>= other) := by
  refine agree_bind h (fun a _ => same a) (fun f a _ => (next a).yields_any) ?_
  rintro f a ⟨strict, shown⟩
  refine (stops f a shown).mono (fun _ => id) ?_
  rintro _ ⟨b, rfl, holds⟩
  exact ⟨b, rfl, strict, holds⟩

end Play

def StepEntry.StopsAfter (earlier : List StepEntry) (entries : List StepEntry) : Prop :=
  ∃ last f, entries = earlier ++ [last] ∧ StepFault.isStrict f = true ∧
    last.error = some f.report

theorem StepEntry.StopsAfter.cons {earlier entries : List StepEntry}
    (h : StepEntry.StopsAfter earlier entries) (this : StepEntry) :
    StepEntry.StopsAfter (this :: earlier) (this :: entries) := by
  obtain ⟨last, f, rfl, strict, shown⟩ := h
  exact ⟨last, f, rfl, strict, shown⟩

theorem StepEntry.StopsAfter.forced {report : RunReport} {earlier : List StepEntry}
    (h : StopsAfter earlier report.steps) : ¬ report.Unforced := by
  obtain ⟨last, f, split, strict, shown⟩ := h
  refine RunReport.not_unforced strict (List.mem_flatMap.mpr ⟨last, by simp [split], ?_⟩)
  simp [failures, shown]

section

variable {r : Runner} {loose : RunSettings} (looser : loose.Loosens r.settings)

include looser

theorem RunSettings.Loosens.expect : Expect.ofSettings loose = Expect.ofSettings r.settings := by
  rw [looser.same]
  rfl

theorem Step.act_loosened (s : Step) (target : Option Target) :
    Play.Loosened (fun f x => x = .error f) (s.act (r.withSettings loose) target).run
      (s.act r target).run := by
  have limit : loose.actionTimeout = r.settings.actionTimeout := by rw [looser.same]
  unfold act
  split
  · exact Play.loosened_refl _
  · exact Play.loosened_refl _
  · by_cases lacks : s.lacksTarget r.settings target = true
    · rw [if_pos lacks]
      exact .part (.targetRequired s.action.name) (Play.yields_any _)
        (Play.concludes_pure ⟨rfl, rfl⟩)
    · have passed : s.lacksTarget loose target = false := by
        simp only [lacksTarget, Bool.and_eq_true, not_and, Bool.not_eq_true] at lacks ⊢
        cases strict : loose.strictTargets with
        | false => simp
        | true =>
          have required := looser.targets strict
          cases needs : target.isNone && s.action.needsTarget && s.action != .upload with
          | false => rfl
          | true =>
            simp only [Bool.and_eq_true] at needs
            simp [lacks needs] at required
      simp only [lacks, Runner.withSettings, passed, Bool.false_eq_true, if_false, limit]
      exact Play.loosened_refl _

theorem Validation.check_loosened (v : Validation) (scope : Scope) :
    Play.Loosened (fun f x => x = .error f) (v.check (r.withSettings loose) scope).run
      (v.check r scope).run := by
  unfold check
  split
  · exact Play.loosened_refl _
  · rename_i name kind
    cases strict : r.settings.strictValidationTypes with
    | true =>
      exact .part (.unsupportedValidationType name) (Play.yields_any _)
        (Play.concludes_pure ⟨rfl, rfl⟩)
    | false =>
      have passed : loose.strictValidationTypes = false := by
        cases types : loose.strictValidationTypes with
        | false => rfl
        | true => simp [looser.types types] at strict
      simp only [Runner.withSettings, passed]
      exact Play.loosened_refl _
  · exact Play.loosened_refl _

theorem Validation.evaluate_loosened (v : Validation) (inherited : Option Target) :
    Play.Loosened (fun f x => x = .error f) (v.evaluate (r.withSettings loose) inherited).run
      (v.evaluate r inherited).run := by
  have expect : Expect.ofSettings (r.withSettings loose).settings = Expect.ofSettings r.settings :=
    looser.expect
  simp only [evaluate, expect]
  split
  · exact Play.loosened_refl _
  · simp only [ExceptT.run_bind, Attempt.run_result, bind_assoc, pure_bind]
    refine Play.agree_bind (check_loosened looser v _) (fun x _ => Play.loosened_refl _)
      (fun f x _ => Play.yields_any _) ?_
    rintro f _ ⟨strict, rfl⟩
    -- No fault of strictness is an assertion, so no flag of the validation makes it soft.
    have hard : f.isAssertion = false := by
      cases f <;> simp [StepFault.isStrict, StepFault.isAssertion] at strict ⊢
    simp only [hard, Bool.and_false, Bool.false_eq_true, if_false]
    exact Play.concludes_pure ⟨strict, rfl⟩

namespace Step

theorem evaluateAll_loosened (target : Option Target) (vs : List Validation) :
    Play.Loosened (fun f this => this.fault = some f)
      (evaluateAll (r.withSettings loose) target vs) (evaluateAll r target vs) := by
  induction vs with
  | nil => exact Play.loosened_pure _
  | cons v rest ih =>
    refine Play.loosened_bind (Validation.evaluate_loosened looser v target) ?_ ?_
    · intro x
      cases x with
      | error f => exact Play.loosened_pure _
      | ok verdict =>
        refine Play.loosened_bind ih (fun later => Play.loosened_pure _) fun f later ends => ?_
        refine Play.concludes_pure ?_
        cases verdict <;> simpa [Round.afterVerdict] using ends
    · rintro f _ rfl
      exact Play.concludes_pure rfl

theorem round_loosened (s : Step) (target : Option Target) :
    Play.Loosened (fun f this => this.fault = some f) (s.round (r.withSettings loose) target)
      (s.round r target) := by
  refine Play.loosened_bind (act_loosened looser s target) ?_ ?_
  · intro acted
    cases acted with
    | error f => exact Play.loosened_pure _
    | ok done =>
      refine Play.agree_then _ fun paused => ?_
      cases paused with
      | error f => exact Play.loosened_pure _
      | ok done => exact evaluateAll_loosened looser target s.validations
  · rintro f _ rfl
    exact Play.concludes_pure rfl

theorem rounds_loosened (s : Step) (base : Target) (place count : Nat) :
    Play.Loosened (fun f ran => ran.2 = some f) (s.rounds (r.withSettings loose) base place count)
      (s.rounds r base place count) := by
  induction count generalizing place with
  | zero => exact Play.loosened_pure _
  | succ count ih =>
    refine Play.loosened_bind (round_loosened looser s _) ?_ ?_
    · intro this
      cases ends : this.fault with
      | some f => exact Play.loosened_pure _
      | none =>
        refine Play.loosened_bind (ih (place + 1)) (fun ran => Play.loosened_pure _) ?_
        intro f ran shown
        exact Play.concludes_pure shown
    · intro f this ends
      simp only [ends]
      exact Play.concludes_pure rfl

theorem once_loosened (s : Step) (target : Option Target) :
    Play.Loosened (fun f course => course.fault = some f)
      (StepCourse.ofRound <$> s.round (r.withSettings loose) target)
      (StepCourse.ofRound <$> s.round r target) := by
  simp only [map_eq_pure_bind]
  refine Play.loosened_bind (round_loosened looser s target) (fun _ => Play.loosened_pure _) ?_
  intro f this ends
  exact Play.concludes_pure ends

theorem drive_loosened (s : Step) :
    Play.Loosened (fun f course => course.fault = some f) (s.drive (r.withSettings loose))
      (s.drive r) := by
  unfold drive
  split
  · exact Play.loosened_pure _
  · exact once_loosened looser s none
  · split
    · refine Play.agree_then _ fun counted => ?_
      cases counted with
      | error f => exact Play.loosened_pure _
      | ok count =>
        refine Play.loosened_bind (rounds_loosened looser s _ 0 count)
          (fun ran => Play.loosened_pure _) ?_
        intro f ran ends
        exact Play.concludes_pure ends
    · exact once_loosened looser s _

omit looser in
theorem agree_later (this : StepEntry) {p q : Play (List StepEntry × Outcome)}
    (h : Play.Agree (fun _ => True) (fun earlier ran => earlier <+: ran.1)
      (fun earlier ran => StepEntry.StopsAfter earlier ran.1) p q) :
    Play.Agree (fun _ => True) (fun earlier ran => earlier <+: ran.1)
      (fun earlier ran => StepEntry.StopsAfter earlier ran.1)
      (p >>= fun ran => pure (this :: ran.1, ran.2))
      (q >>= fun ran => pure (this :: ran.1, ran.2)) := by
  have longer : Play.Agree (fun _ => True) (fun earlier ran => this :: earlier <+: ran.1)
      (fun earlier ran => StepEntry.StopsAfter (this :: earlier) ran.1)
      (p >>= fun ran => pure (this :: ran.1, ran.2))
      (q >>= fun ran => pure (this :: ran.1, ran.2)) := by
    refine Play.agree_bind h (fun ran _ => Play.agree_pure trivial) ?_ ?_
    · intro earlier ran alike
      exact Play.yields_pure (List.cons_prefix_cons.mpr ⟨rfl, alike⟩)
    · intro earlier ran ends
      exact Play.concludes_pure (ends.cons this)
  exact longer.mono (fun _ => id) (this :: ·) (fun _ _ => id) (fun _ _ => id)

/-- The run of the steps under the strict settings stops at some entry or not at all, and up to
there the looser run has the same entries. -/
theorem runAll_loosened (position : Nat) (steps : List Step) :
    Play.Agree (fun _ => True) (fun earlier ran => earlier <+: ran.1)
      (fun earlier ran => StepEntry.StopsAfter earlier ran.1)
      (runAll (r.withSettings loose) position steps) (runAll r position steps) := by
  induction steps generalizing position with
  | nil => exact Play.agree_pure trivial
  | cons s rest ih =>
    -- Where this step parts the runs, no entry comes before.
    have parted : Play.Agree (fun _ => True) (fun (earlier : List StepEntry) _ => earlier = [])
        (fun earlier course => earlier = [] ∧ ∃ f, StepFault.isStrict f = true ∧
          course.fault = some f)
        (s.drive (r.withSettings loose)) (s.drive r) :=
      (drive_loosened looser s).mono (fun _ => id) (fun _ => []) (fun _ _ _ => rfl)
        fun f _ ⟨strict, ends⟩ => ⟨rfl, f, strict, ends⟩
    refine Play.agree_then _ fun start => Play.agree_bind parted ?_ ?_ ?_
    · intro course _
      refine Play.agree_then _ fun finish => ?_
      dsimp only
      split
      · exact Play.agree_pure trivial
      · exact agree_later (s.entry position start finish course) (ih (position + 1))
    · rintro _ course rfl
      exact (Play.yields_any _).mono fun ran _ => List.nil_prefix
    · rintro _ course ⟨rfl, f, strict, ends⟩
      refine Play.concludes_clock_bind fun finish => ?_
      simp only [ends, Option.isSome_some, if_true]
      exact Play.concludes_pure ⟨_, f, rfl, strict, by simp [entry, ends]⟩

end Step

theorem TestCase.runHere_loosened (c : TestCase) :
    Play.Agree (fun _ => True)
      (fun earlier x => ∀ report, x = .ok report → earlier <+: report.steps)
      (fun earlier x => ∃ report, x = .ok report ∧ StepEntry.StopsAfter earlier report.steps)
      (c.runHere (r.withSettings loose)).run (c.runHere r).run := by
  simp only [runHere]
  split
  · exact Play.agree_pure trivial
  · simp only [ExceptT.run_bind, Attempt.run_ofPlay, bind_assoc, pure_bind, ExceptT.run_pure]
    refine Play.agree_then _ fun id => Play.agree_then _ fun start => ?_
    refine Play.agree_bind (Step.runAll_loosened looser 0 c.steps) ?_ ?_ ?_
    · intro ran _
      exact Play.agree_then _ fun finish => Play.agree_pure trivial
    · rintro earlier ⟨entries, outcome⟩ alike
      refine Play.yields_then fun finish => Play.yields_pure ?_
      rintro _ ⟨⟩
      exact alike
    · rintro earlier ⟨entries, outcome⟩ ends
      refine Play.concludes_clock_bind fun finish => ?_
      exact Play.concludes_pure ⟨_, rfl, ends⟩

end

namespace TestCase

variable {σ : Type} {c : TestCase} {r : Runner} {page : Page σ} {w : World σ}

theorem stopsAfter_of_forced {report : RunReport}
    (ended : (c.course r page w).result = some (.ok report)) (forced : ¬ report.Unforced) :
    ∃ earlier, StepEntry.StopsAfter earlier report.steps := by
  obtain ⟨told, soft⟩ := course_tells (fun s _ => s.failsOnly_any r) ended
  simp only [RunReport.Unforced, Classical.not_forall,
    Classical.not_and_iff_not_or_not, Classical.not_not] at forced
  obtain ⟨text, member, message, label⟩ := forced
  obtain ⟨f, -, rfl⟩ := told text member
  have code : f.code = .targetRequired ∨ f.code = .unsupportedValidationType :=
    label.imp FaultCode.label_injective FaultCode.label_injective
  rcases (course_consistent ended).failure_cases member with ⟨s, recorded, shown⟩ | last
  · obtain ⟨g, ⟨-, assertion⟩, texts⟩ := soft s recorded
    have same : g.code = f.code := FaultCode.label_injective (texts.symm.trans shown)
    rw [g.isAssertion_iff_code.mp assertion] at same
    rcases code with code | code <;> simp [code] at same
  · obtain ⟨earlier, last, split, error⟩ := last
    exact ⟨earlier, last, f, split, f.isStrict_iff_code.mpr code, error⟩

/-- What lifting strict rules leaves as it is in the run of a case. -/
structure StrictRulesAside (c : TestCase) (r : Runner) (loose : RunSettings) (page : Page σ)
    (w : World σ) : Prop where
  alike : ∀ report, (c.course r page w).result = some (.ok report) → report.Unforced →
    c.course (r.withSettings loose) page w = c.course r page w
  parted : ∀ report, (c.course r page w).result = some (.ok report) → ¬ report.Unforced →
    ∃ earlier, StepEntry.StopsAfter earlier report.steps ∧
      (c.course r page w).calls <+: (c.course (r.withSettings loose) page w).calls ∧
      ∀ other, (c.course (r.withSettings loose) page w).result = some (.ok other) →
        earlier <+: other.steps
  unreported : (∀ report, (c.course r page w).result ≠ some (.ok report)) →
    c.course (r.withSettings loose) page w = c.course r page w
  passes : ∀ report, (c.course r page w).result = some (.ok report) → report.status = .passed →
    c.course (r.withSettings loose) page w = c.course r page w

/-- A run under looser settings is the strict run, unless that one stops for a fault of strictness;
then the two do the same up to there. So what passes strictly passes. -/
theorem strict_settings_only_fail (c : TestCase) (r : Runner) (loose : RunSettings)
    (looser : loose.Loosens r.settings) (page : Page σ) (w : World σ) :
    c.StrictRulesAside r loose page w := by
  have parted : c.course (r.withSettings loose) page w = c.course r page w ∨
      ∃ earlier report, (c.course r page w).result = some (.ok report) ∧
        StepEntry.StopsAfter earlier report.steps ∧
        (c.course r page w).calls <+: (c.course (r.withSettings loose) page w).calls ∧
        ∀ other, (c.course (r.withSettings loose) page w).result = some (.ok other) →
          earlier <+: other.steps := by
    rcases (runHere_loosened looser c).perform page w with
      ⟨same, -⟩ | ⟨earlier, x, ended, ⟨report, rfl, stops⟩, calls, told⟩
    · exact .inl same
    · exact .inr ⟨earlier, report, ended, stops, calls, fun other ran => told _ ran other rfl⟩
  constructor
  case alike =>
    intro report ended unforced
    rcases parted with same | ⟨earlier, other, ended', stops, -⟩
    · exact same
    · obtain rfl : report = other := by simpa [ended] using ended'
      exact absurd unforced stops.forced
  case parted =>
    intro report ended forced
    rcases parted with same | ⟨earlier, other, ended', stops, calls, told⟩
    · obtain ⟨earlier, stops⟩ := stopsAfter_of_forced ended forced
      refine ⟨earlier, stops, same ▸ List.prefix_rfl, fun other ran => ?_⟩
      obtain rfl : report = other := by simpa [same, ended] using ran
      obtain ⟨last, f, split, -⟩ := stops
      exact split ▸ List.prefix_append earlier [last]
    · obtain rfl : report = other := by simpa [ended] using ended'
      exact ⟨earlier, stops, calls, told⟩
  case unreported =>
    intro none
    exact parted.resolve_right fun ⟨earlier, report, ended, _⟩ => none report ended
  case passes =>
    intro report ended passed
    rcases parted with same | ⟨earlier, other, ended', stops, -⟩
    · exact same
    · obtain rfl : report = other := by simpa [ended] using ended'
      refine absurd ?_ stops.forced
      simp [RunReport.Unforced, (course_consistent ended).passed_iff_failures.mp passed]

end TestCase

namespace Sample

def aimless : TestCase where
  description := "aimless"
  steps := [{ action := .hover, selector := some "li" }, { action := .click }, { action := .goto }]

def strict : Runner := runner.withSettings { runner.settings with strictTargets := true }

/-- The sample goes through, and strict settings end it at its second step. -/
theorem aimless_strict_settings_only_fail :
    runner.settings.Loosens strict.settings ∧
      aimless.StrictRulesAside strict runner.settings MemoryPage.page start ∧
      (∃ report, (aimless.course strict MemoryPage.page start).result = some (.ok report) ∧
        ¬ report.Unforced) ∧
      aimless.course runner MemoryPage.page start ≠
        aimless.course strict MemoryPage.page start := by
  have looser : runner.settings.Loosens strict.settings := ⟨rfl, nofun, id⟩
  have aside :=
    aimless.strict_settings_only_fail strict runner.settings looser MemoryPage.page start
  obtain ⟨report, ended⟩ := TestCase.course_ok_of_steady (c := aimless) (r := strict)
    (by simp [aimless]) Registry.builtin_steady MemoryPage.page start
  have lengths : (aimless.course strict MemoryPage.page start).result.map
      (·.toOption.map (·.steps.length)) = some (some 2) := by decide +kernel
  have part : aimless.course runner MemoryPage.page start ≠
      aimless.course strict MemoryPage.page start := by
    intro alike
    rw [← alike] at lengths
    exact absurd lengths (by decide +kernel)
  have forced : ¬ report.Unforced := fun unforced => part (aside.alike report ended unforced)
  exact ⟨looser, aside, ⟨report, ended, forced⟩, part⟩

end Sample

end Walkthrough
