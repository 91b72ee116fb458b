import Walkthrough.Proofs.Play.Laws
import Walkthrough.Proofs.Run.Parametric

/-!
What the evaluation of a validation asks for: readings of the target that it is about, and between
them the clock and sleep. Only the handler of a custom validation may ask for anything else.
-/
namespace Walkthrough

def Request.IsTiming : Request → Prop
  | .sleep _ | .clock => True
  | _ => False

namespace Validation

def scopeIn (v : Validation) (r : Runner) (own inherited : Option Target) : Scope :=
  ⟨own.or inherited, (Expect.ofSettings r.settings).withOptions v.options⟩

def judge (v : Validation) : Except StepFault Unit → Except StepFault Verdict
  | .ok () => .ok .passed
  | .error fault =>
    if v.soft && fault.isAssertion then .ok (.softFailed ⟨v.kind.name, fault.report⟩)
    else .error fault

theorem evaluate_run {v : Validation} {own : Option Target}
    (resolved : v.selection.target? = .ok own) (r : Runner) (inherited : Option Target) :
    (v.evaluate r inherited).run =
      (v.check r (v.scopeIn r own inherited)).run >>= fun x => pure (v.judge x) := by
  simp only [evaluate, resolved, ExceptT.run_bind, Attempt.run_result, bind_assoc, pure_bind]
  refine bind_congr fun x => ?_
  rcases x with fault | _
  · simp only [judge]
    split <;> rfl
  · rfl

theorem callHandler_run {v : Validation} {r : Registry} {handler : ValidationHandler}
    (found : r.validation? (v.customName.getD "") = some handler) (scope : Scope) :
    (v.callHandler r scope).run = (handler v scope).run >>= fun x => pure (x.mapError fun trouble =>
      .assertion ("custom:" ++ v.customName.getD "") (.handler trouble)) := by
  simp only [callHandler, found, ExceptT.run_bind, Attempt.run_result, bind_assoc, pure_bind]
  refine bind_congr fun x => ?_
  rcases x with trouble | _ <;> rfl

theorem evaluate_custom {v : Validation} {r : Runner} {handler : ValidationHandler}
    {own : Option Target} (custom : v.kind = .custom)
    (found : r.registry.validation? (v.customName.getD "") = some handler)
    (resolved : v.selection.target? = .ok own) (inherited : Option Target) :
    ∃ judged : Except Trouble Unit → Except StepFault Verdict, (v.evaluate r inherited).run =
      (handler v (v.scopeIn r own inherited)).run >>= fun x => pure (judged x) := by
  have checks : (v.check r (v.scopeIn r own inherited)).run =
      (v.callHandler r.registry (v.scopeIn r own inherited)).run := by
    simp only [check, custom]
  rw [evaluate_run resolved, checks, callHandler_run found]
  simp only [bind_assoc, pure_bind]
  exact ⟨_, rfl⟩

end Validation

section

variable {may : Request → Prop} {crash : Prop} (timing : ∀ q : Request, q.IsTiming → may q)

include timing

theorem Expect.poll_confined (e : Expect) {probe : Play (Except PageFault Probe)}
    (h : probe.Confined may crash) : (e.poll probe).Confined may crash :=
  @Expect.poll_related (fun p _ => p.Confined may crash) (fun _ => Play.confined_pure _)
    (fun first goesOn => Play.confined_bind first goesOn)
    (Play.confined_request (timing .clock trivial))
    (fun ms => Play.confined_request (timing (.sleep ms) trivial)) e probe probe h

theorem Assertion.check_confined (a : Assertion) (allowed : may (.call a.call)) (e : Expect) :
    (a.check e).Confined may crash :=
  Expect.poll_confined timing e <|
    Play.confined_bind (Play.confined_request allowed) fun _ => Play.confined_pure _

namespace Validation

variable {v : Validation} {r : Runner}

theorem check_confined {scope : Scope}
    (reads : ∀ a, v.assertion? scope.target = .ok (some a) → may (.call a.call))
    (handles : v.kind = .custom → (v.callHandler r.registry scope).run.Confined may crash) :
    (v.check r scope).run.Confined may crash := by
  unfold check
  split
  · rename_i custom
    exact handles custom
  · split
    · exact Play.confined_pure _
    · exact Play.confined_pure _
  · split
    · exact Play.confined_pure _
    · exact Play.confined_pure _
    · rename_i a asserts
      have checked : (a.check scope.expect).Confined may crash :=
        Assertion.check_confined timing a (reads a asserts) scope.expect
      refine Play.confined_bind (Play.confined_bind checked fun _ => Play.confined_pure _)
        fun x => ?_
      rcases x with _ | _ | _ <;> exact Play.confined_pure _

theorem evaluate_confined {inherited : Option Target}
    (reads : ∀ own a, v.selection.target? = .ok own →
      v.assertion? (own.or inherited) = .ok (some a) → may (.call a.call))
    (handles : v.kind = .custom → ∀ own, v.selection.target? = .ok own →
      (v.callHandler r.registry (v.scopeIn r own inherited)).run.Confined may crash) :
    (v.evaluate r inherited).run.Confined may crash := by
  cases resolved : v.selection.target? with
  | error fault =>
    simp only [evaluate, resolved]
    exact Play.confined_pure _
  | ok own =>
    have checked : (v.check r (v.scopeIn r own inherited)).run.Confined may crash :=
      check_confined timing (fun a asserts => reads own a resolved asserts)
        fun custom => handles custom own resolved
    rw [evaluate_run resolved]
    exact Play.confined_bind checked fun _ => Play.confined_pure _

end Validation

end

end Walkthrough
