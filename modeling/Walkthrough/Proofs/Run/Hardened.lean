import Walkthrough.Proofs.Handler.Builtin
import Walkthrough.Proofs.Play.Agreement
import Walkthrough.Proofs.Run.Failures

/-!
Runs without soft flags. A case does the same without them up to the first assertion that fails,
where the run without soft flags stops.
-/
namespace Walkthrough

def Validation.hardened (v : Validation) : Validation := { v with soft := false }

def Step.hardened (s : Step) : Step :=
  { s with validations := s.validations.map Validation.hardened }

def TestCase.hardened (c : TestCase) : TestCase := { c with steps := c.steps.map Step.hardened }

structure Registry.IgnoresSoft (r : Registry) : Prop where
  action : ∀ name handler, r.action? name = some handler → ∀ s, handler s.hardened = handler s
  validation : ∀ name handler, r.validation? name = some handler →
    ∀ v scope, handler v.hardened scope = handler v scope

theorem Registry.builtin_ignoresSoft : Registry.builtin.IgnoresSoft where
  action name handler found s := by
    rcases builtin_action found with rfl | rfl
    · rfl
    · rfl
  validation name handler found v scope := by
    cases builtin_validation found
    rfl

/-- The failures are one error, told once or again, or there are none. -/
structure Sole (error : Option String) (failures : List String) : Prop where
  first : failures.head? = error
  only : ∀ text ∈ failures, error = some text

theorem Sole.nil : Sole none [] := ⟨rfl, by simp⟩

theorem Sole.single (text : String) : Sole (some text) [text] := ⟨rfl, by simp⟩

theorem Sole.retold {text : String} {failures : List String} (h : Sole (some text) failures) :
    Sole (some text) (failures ++ [text]) := by
  refine ⟨by simp [h.first], ?_⟩
  simpa [or_imp, forall_and] using h.only

theorem Round.sole_of_firm {this : Round} (firm : this.softFailures = []) :
    Sole (this.fault.map StepFault.report) this.failures := by
  cases ends : this.fault with
  | none => simpa [failures, firm, ends] using Sole.nil
  | some f => simpa [failures, firm, ends] using Sole.single f.report

def StepCourse.Firm (c : StepCourse) : Prop := Sole (c.fault.map StepFault.report) c.failures

def StepCourse.StopsFor (f : StepFault) (c : StepCourse) : Prop :=
  c.Firm ∧ c.fault = some f ∧ f.isAssertion = true

theorem head?_append_of_some {a b : List String} {text : String} (h : a.head? = some text) :
    (a ++ b).head? = some text := by
  simp [h]

theorem Step.act_withChecks {s : Step} {vs : List Validation} {r : Runner}
    (same : ∀ handler, r.registry.action? (s.customName.getD "") = some handler →
      handler { s with validations := vs } = handler s) (target : Option Target) :
    { s with validations := vs }.act r target = s.act r target := by
  have handler : { s with validations := vs }.callHandler r.registry =
      s.callHandler r.registry := by
    simp only [callHandler]
    cases found : r.registry.action? (s.customName.getD "") with
    | none => rfl
    | some handler => simp only [same handler found]
  have unlimited : { s with validations := vs }.unlimited r target = s.unlimited r target := by
    simp only [Step.unlimited, handler]
    rfl
  simp only [Step.act, unlimited]
  rfl

section

variable {r : Runner} (ignores : r.registry.IgnoresSoft)

include ignores

theorem Step.act_hardened (s : Step) (target : Option Target) :
    s.hardened.act r target = s.act r target :=
  act_withChecks (fun handler found => ignores.action _ handler found s) target

theorem Validation.check_hardened (v : Validation) (scope : Scope) :
    v.hardened.check r scope = v.check r scope := by
  have handler : v.hardened.callHandler r.registry scope = v.callHandler r.registry scope := by
    have name : v.hardened.customName = v.customName := rfl
    simp only [callHandler, name]
    cases found : r.registry.validation? (v.customName.getD "") with
    | none => rfl
    | some handler => simp only [ignores.validation _ handler found v scope]
  simp only [check, handler]
  rfl

theorem Validation.evaluate_agree (v : Validation) (inherited : Option Target) :
    Play.Agree (fun x => ∀ failure, x ≠ .ok (.softFailed failure))
      (fun f x => ∃ failure, x = .ok (.softFailed failure) ∧ failure.message = f.report)
      (fun f x => x = .error f ∧ f.isAssertion = true)
      (v.evaluate r inherited).run (v.hardened.evaluate r inherited).run := by
  have selection : v.hardened.selection = v.selection := rfl
  have options : v.hardened.options = v.options := rfl
  simp only [evaluate, selection, options, check_hardened ignores]
  split
  · exact Play.agree_pure nofun
  · simp only [ExceptT.run_bind, Attempt.run_result, bind_assoc, pure_bind]
    refine Play.agree_then _ fun x => ?_
    cases x with
    | ok done => exact Play.agree_pure nofun
    | error f =>
      have hard : v.hardened.soft = false := rfl
      simp only [hard, Bool.false_and, Bool.false_eq_true, if_false]
      split
      · rename_i softens
        have assertion : f.isAssertion = true := by
          simp only [Bool.and_eq_true] at softens
          exact softens.2
        exact .part f (Play.yields_pure ⟨_, rfl, rfl⟩) (Play.concludes_pure ⟨rfl, assertion⟩)
      · exact Play.agree_pure nofun

namespace Step

theorem evaluateAll_agree (target : Option Target) (vs : List Validation) :
    Play.Agree (fun this => this.softFailures = [])
      (fun f this => this.failures.head? = some f.report)
      (fun f this => this.softFailures = [] ∧ this.fault = some f ∧ f.isAssertion = true)
      (evaluateAll r target vs) (evaluateAll r target (vs.map Validation.hardened)) := by
  induction vs with
  | nil => exact Play.agree_pure rfl
  | cons v rest ih =>
    refine Play.agree_bind (Validation.evaluate_agree ignores v target) ?_ ?_ ?_
    · intro x firm
      cases x with
      | error f => exact Play.agree_pure rfl
      | ok verdict =>
        cases verdict with
        | softFailed failure => exact absurd rfl (firm failure)
        | passed => simpa [Round.afterVerdict] using ih
    · rintro f _ ⟨failure, rfl, told⟩
      refine Play.yields_then fun later => Play.yields_pure ?_
      simp [Round.failures, Round.afterVerdict, told]
    · rintro f _ ⟨rfl, assertion⟩
      exact Play.concludes_pure ⟨rfl, rfl, assertion⟩

theorem round_agree (s : Step) (target : Option Target) :
    Play.Agree (fun this => this.softFailures = [])
      (fun f this => this.failures.head? = some f.report)
      (fun f this => this.softFailures = [] ∧ this.fault = some f ∧ f.isAssertion = true)
      (s.round r target) (s.hardened.round r target) := by
  have pauseAfter : s.hardened.pauseAfter = s.pauseAfter := rfl
  simp only [round, act_hardened ignores, pauseAfter]
  refine Play.agree_then _ fun acted => ?_
  cases acted with
  | error f => exact Play.agree_pure rfl
  | ok done =>
    refine Play.agree_then _ fun paused => ?_
    cases paused with
    | error f => exact Play.agree_pure rfl
    | ok done => exact evaluateAll_agree ignores target s.validations

theorem rounds_agree (s : Step) (base : Target) (place count : Nat) :
    Play.Agree (fun (row, fault) => Sole (fault.map StepFault.report) (row.flatMap (·.failures)))
      (fun f (row, _) => (row.flatMap (·.failures)).head? = some f.report)
      (fun f (row, fault) => Sole (fault.map StepFault.report) (row.flatMap (·.failures)) ∧
        fault = some f ∧ f.isAssertion = true)
      (s.rounds r base place count) (s.hardened.rounds r base place count) := by
  induction count generalizing place with
  | zero => exact Play.agree_pure Sole.nil
  | succ count ih =>
    refine Play.agree_bind (round_agree ignores s _) ?_ ?_ ?_
    · intro this firm
      have sole := Round.sole_of_firm firm
      cases ends : this.fault with
      | some f => exact Play.agree_pure (by simpa [ends] using sole)
      | none =>
        have failures : this.failures = [] := by simpa [ends] using sole.first
        refine Play.agree_bind (ih (place + 1)) ?_ ?_ ?_
        · intro (row, fault) sole
          exact Play.agree_pure (by simpa [failures] using sole)
        · intro f (row, fault) first
          exact Play.yields_pure (by simpa [failures] using first)
        · intro f (row, fault) stops
          exact Play.concludes_pure (by simpa [failures] using stops)
    · intro f this first
      split
      · exact Play.yields_pure (by simpa using first)
      · refine Play.yields_then fun (row, fault) => Play.yields_pure ?_
        exact head?_append_of_some first
    · rintro f this ⟨firm, ends, assertion⟩
      have sole := Round.sole_of_firm firm
      simp only [ends] at sole ⊢
      exact Play.concludes_pure ⟨by simpa using sole, rfl, assertion⟩

theorem once_agree (s : Step) (target : Option Target) :
    Play.Agree StepCourse.Firm (fun f course => course.failures.head? = some f.report)
      StepCourse.StopsFor (StepCourse.ofRound <$> s.round r target)
      (StepCourse.ofRound <$> s.hardened.round r target) := by
  simp only [map_eq_pure_bind]
  refine Play.agree_bind (round_agree ignores s target) ?_ ?_ ?_
  · intro this firm
    exact Play.agree_pure (Round.sole_of_firm firm)
  · intro f this first
    exact Play.yields_pure first
  · rintro f this ⟨firm, ends, assertion⟩
    exact Play.concludes_pure ⟨Round.sole_of_firm firm, ends, assertion⟩

theorem iterateOver_agree (s : Step) (base : Target) :
    Play.Agree StepCourse.Firm (fun f course => course.failures.head? = some f.report)
      StepCourse.StopsFor (s.iterateOver r base) (s.hardened.iterateOver r base) := by
  refine Play.agree_then _ fun counted => ?_
  cases counted with
  | error f => exact Play.agree_pure (Sole.single f.report)
  | ok count =>
    refine Play.agree_bind (rounds_agree ignores s base 0 count) ?_ ?_ ?_
    · intro (row, fault) sole
      refine Play.agree_pure ?_
      cases fault with
      | none => simpa [StepCourse.Firm, StepCourse.failures] using sole
      | some f => simpa [StepCourse.Firm, StepCourse.failures] using sole.retold
    · intro f (row, fault) first
      refine Play.yields_pure ?_
      exact head?_append_of_some (head?_append_of_some first)
    · rintro f ⟨row, fault⟩ ⟨sole, ends, assertion⟩
      obtain rfl : fault = some f := ends
      refine Play.concludes_pure ⟨?_, rfl, assertion⟩
      simpa [StepCourse.Firm, StepCourse.failures] using sole.retold

theorem drive_agree (s : Step) :
    Play.Agree StepCourse.Firm (fun f course => course.failures.head? = some f.report)
      StepCourse.StopsFor (s.drive r) (s.hardened.drive r) := by
  have selection : s.hardened.selection = s.selection := rfl
  have iterate : s.hardened.iterate = s.iterate := rfl
  simp only [drive, selection, iterate]
  split
  · rename_i f unsupported
    exact Play.agree_pure (Sole.single f.report)
  · exact once_agree ignores s none
  · split
    · exact iterateOver_agree ignores s _
    · exact once_agree ignores s _

/-- How a run without soft flags ends: with an error, unless it is completed without any. -/
def EndsWith (error : Option String) (entries : List StepEntry) (outcome : Outcome) : Prop :=
  Sole error (entries.flatMap (·.failures)) ∧ (outcome = .aborted ↔ error.isSome)

theorem runAll_agree (position : Nat) (steps : List Step) :
    Play.Agree (fun ran => ∃ error, EndsWith error ran.1 ran.2)
      (fun (f : StepFault) ran => (ran.1.flatMap (·.failures)).head? = some f.report)
      (fun f ran => EndsWith (some f.report) ran.1 ran.2 ∧ f.isAssertion = true)
      (runAll r position steps) (runAll r position (steps.map hardened)) := by
  induction steps generalizing position with
  | nil => exact Play.agree_pure ⟨none, Sole.nil, by simp⟩
  | cons s rest ih =>
    have named (start finish : Nat) (course : StepCourse) :
        s.hardened.entry position start finish course = s.entry position start finish course := rfl
    simp only [List.map_cons, runAll, named]
    refine Play.agree_then _ fun start => ?_
    refine Play.agree_bind (drive_agree ignores s) ?_ ?_ ?_
    · intro course sole
      refine Play.agree_then _ fun finish => ?_
      cases ends : course.fault with
      | some f =>
        simp only [Option.isSome_some, if_true]
        exact Play.agree_pure ⟨some f.report, by simpa [StepCourse.Firm, ends] using sole, by simp⟩
      | none =>
        have failures : course.failures = [] := by simpa [ends] using sole.first
        simp only [Option.isSome_none, Bool.false_eq_true, if_false]
        refine Play.agree_bind (ih (position + 1)) ?_ ?_ ?_
        · rintro ⟨later, outcome⟩ firm
          exact Play.agree_pure (by simpa [EndsWith, failures] using firm)
        · rintro f ⟨later, outcome⟩ first
          exact Play.yields_pure (by simpa [failures] using first)
        · rintro f ⟨later, outcome⟩ stops
          exact Play.concludes_pure (by simpa [EndsWith, failures] using stops)
    · intro f course first
      refine Play.yields_then fun finish => ?_
      split
      · exact Play.yields_pure (by simpa using first)
      · refine Play.yields_then ?_
        rintro ⟨later, outcome⟩
        exact Play.yields_pure (head?_append_of_some first)
    · rintro f course ⟨sole, ends, assertion⟩
      refine Play.concludes_clock_bind fun finish => ?_
      simp only [ends, Option.isSome_some, if_true]
      exact Play.concludes_pure
        ⟨⟨by simpa [StepCourse.Firm, ends] using sole, by simp⟩, assertion⟩

end Step

end

end Walkthrough
