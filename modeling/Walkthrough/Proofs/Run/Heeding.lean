import Walkthrough.Proofs.Check.Requests
import Walkthrough.Proofs.Handler.Builtin
import Walkthrough.Proofs.Play.Faults
import Walkthrough.Proofs.Run.TimeLimit

/-!
Actions heed faults: a call of an action that fails, or that is given up at the time limit, is the
last one, and the action fails.
-/
namespace Walkthrough

/-- The request is no call on another target. -/
def Request.OnlyOn (target : Option Target) : Request → Prop
  | .call c => c.OnlyOn target
  | _ => True

/-- No handler of an action goes on after a call that failed. -/
def Registry.HeedsFaults (r : Registry) : Prop :=
  ∀ name handler, r.action? name = some handler → ∀ s, (handler s).Heeds fun _ => True

variable {may : Request → Prop}

theorem Handler.call_heeds {c : Call} (allowed : may (.call c)) : (Handler.call c).Heeds may := by
  have runs : (Handler.call c).run =
      Play.call c >>= fun x => pure (x.mapError PageFault.trouble) := by
    simp only [Handler.call, ExceptT.run_bind, Attempt.run_ofPlay, bind_assoc, pure_bind]
    refine bind_congr fun x => ?_
    rcases x with _ | _ <;> rfl
  refine Attempt.heeds_of_run runs (Play.heeds_call allowed) ?_
  rintro _ ⟨fault, rfl⟩
  exact ⟨_, rfl⟩

namespace Step

variable (s : Step)

theorem call_run (c : Call) : (s.call c).run = Play.call c >>= fun x =>
    pure (x.mapError fun fault => .action s.action.name (.page fault)) := by
  simp only [call, ExceptT.run_bind, Attempt.run_ofPlay, bind_assoc, pure_bind]
  refine bind_congr fun x => ?_
  rcases x with _ | _ <;> rfl

theorem call_heeds {c : Call} (allowed : may (.call c)) : (s.call c).Heeds may := by
  refine Attempt.heeds_of_run (s.call_run c) (Play.heeds_call allowed) ?_
  rintro _ ⟨fault, rfl⟩
  exact ⟨_, rfl⟩

theorem callHandler_heeds {r : Registry}
    (handlers : ∀ handler, r.action? (s.customName.getD "") = some handler →
      (handler s).Heeds may) : (s.callHandler r).Heeds may := by
  cases found : r.action? (s.customName.getD "") with
  | none =>
    simp only [callHandler, found]
    exact Attempt.heeds_throw _
  | some handler =>
    have runs : (s.callHandler r).run = (handler s).run >>= fun x => pure (x.mapError fun trouble =>
        .action ("custom:" ++ s.customName.getD "") (.handler trouble)) := by
      simp only [callHandler, found, ExceptT.run_bind, Attempt.run_result, bind_assoc, pure_bind]
      refine bind_congr fun x => ?_
      rcases x with _ | _ <;> rfl
    refine Attempt.heeds_of_run runs (handlers handler found) ?_
    rintro _ ⟨trouble, rfl⟩
    exact ⟨_, rfl⟩

theorem interact_heeds (target : Option Target) :
    (s.interact target).Heeds (Request.OnlyOn target) := by
  cases target with
  | none => exact Attempt.heeds_pure ()
  | some t =>
    simp only [interact]
    split
    · rename_i c made
      have onto : (s.call c).Heeds (Request.OnlyOn (some t)) :=
        s.call_heeds fun _ on => (interaction?_target made).symm.trans on
      exact Attempt.heeds_bind onto fun _ => Attempt.heeds_pure ()
    · exact Attempt.heeds_throw _

theorem upload_heeds (directory : String) (target : Option Target) :
    (s.upload directory target).Heeds (Request.OnlyOn target) := by
  cases target with
  | none => exact Attempt.heeds_throw _
  | some t =>
    have onto (files : List Payload) :
        (s.call (.setInputFiles t files)).Heeds (Request.OnlyOn (some t)) := by
      refine s.call_heeds ?_
      rintro _ ⟨⟩
      rfl
    simp only [upload]
    split
    · exact Attempt.heeds_throw _
    · split
      · exact Attempt.heeds_bind (onto []) fun _ => onto _
      · exact onto _

theorem pause_heeds (target : Option Target) : s.pause.Heeds (Request.OnlyOn target) := by
  unfold pause
  split
  · split
    · refine s.call_heeds ?_
      rintro _ ⟨⟩
    · exact Attempt.heeds_pure ()
  · exact Attempt.heeds_pure ()

theorem limited_heeds {p : Attempt StepFault Unit} (clock : may .clock) (limit : Nat)
    (h : p.Heeds may) : (s.limited limit p).Heeds may := by
  have within : (Play.limited limit p.run).Heeds may fun o => ∀ a, o = some a → ∃ e, a = .error e :=
    Play.heeds_request_bind clock (fun _ => id) fun now => Play.heeds_within (now + limit) h
  refine Attempt.heeds_of_run (s.limited_run limit p) within fun o fails => ?_
  cases o with
  | none => exact ⟨_, rfl⟩
  | some a =>
    obtain ⟨e, rfl⟩ := fails a rfl
    exact ⟨e, rfl⟩

theorem act_heeds {r : Runner} {target : Option Target} (clock : may .clock)
    (h : (s.unlimited r target).Heeds may) : (s.act r target).Heeds may := by
  unfold act
  split
  · exact Attempt.heeds_throw _
  · rename_i wait
    simpa only [unlimited, wait] using h
  · split
    · exact Attempt.heeds_throw _
    · exact s.limited_heeds clock _ h

theorem unlimited_heeds (plain : s.action ≠ .custom) (r : Runner) (target : Option Target) :
    (s.unlimited r target).Heeds (Request.OnlyOn target) := by
  unfold unlimited
  split
  · exact s.call_heeds nofun
  any_goals exact s.interact_heeds target
  · exact s.upload_heeds _ target
  · exact s.pause_heeds target
  · rename_i custom
    exact absurd custom plain
  · exact Attempt.heeds_throw _

/-- An action that is no handler's makes calls on its own target, up to the first that fails. -/
theorem act_heeds_plain (plain : s.action ≠ .custom) (r : Runner) (target : Option Target) :
    (s.act r target).Heeds (Request.OnlyOn target) :=
  s.act_heeds trivial (s.unlimited_heeds plain r target)

theorem act_heeds_custom {r : Runner} (custom : s.action = .custom)
    (heeds : r.registry.HeedsFaults) (target : Option Target) :
    (s.act r target).Heeds fun _ => True := by
  refine s.act_heeds trivial ?_
  simp only [unlimited, custom]
  exact s.callHandler_heeds fun handler found => heeds _ handler found s

end Step

theorem SelectWord.makeAll_heeds (calls : List Call) :
    (SelectWord.makeAll calls).Heeds fun _ => True := by
  induction calls with
  | nil => exact Attempt.heeds_pure ()
  | cons c rest ih => exact Attempt.heeds_bind (Handler.call_heeds trivial) fun _ => ih

theorem SelectWord.orFail_heeds {α : Type} (x : Except SelectWord.Fault α) :
    (SelectWord.orFail x).Heeds fun _ => True := by
  cases x with
  | ok a => exact Attempt.heeds_pure a
  | error fault => exact Attempt.heeds_throw _

theorem QueryResponse.ifPresent_heeds (selector : Option String) (c : Target → Call) :
    (QueryResponse.ifPresent selector c).Heeds fun _ => True := by
  unfold ifPresent
  split
  · exact Attempt.heeds_pure ()
  · refine Attempt.heeds_bind (Handler.call_heeds trivial) fun found => ?_
    split
    · exact Attempt.heeds_bind (Handler.call_heeds trivial) fun _ => Attempt.heeds_pure ()
    · exact Attempt.heeds_pure ()

theorem Registry.builtin_heedsFaults : Registry.builtin.HeedsFaults := by
  intro name handler found s
  rcases builtin_action found with rfl | rfl
  · refine Attempt.heeds_bind (SelectWord.orFail_heeds _) fun order => ?_
    refine Attempt.heeds_bind (Handler.call_heeds trivial) fun found => ?_
    refine Attempt.heeds_bind (SelectWord.orFail_heeds _) fun box => ?_
    exact SelectWord.makeAll_heeds _
  · unfold QueryResponse.handler
    dsimp only
    split
    · exact Attempt.heeds_bind (QueryResponse.ifPresent_heeds _ _) fun _ =>
        QueryResponse.ifPresent_heeds _ _
    · exact Attempt.heeds_throw _

end Walkthrough
