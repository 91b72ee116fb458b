import Walkthrough.Proofs.Run.Parametric

/-!
What a run asks of the world. The runner itself makes calls, sleeps and reads the clock, and leaves
it to others to close the page; all else, and every crash, comes from a handler of the registry.
-/
namespace Walkthrough

structure Registry.Confined (may : Request → Prop) (crash : Prop) (r : Registry) : Prop where
  action : ∀ name handler, r.action? name = some handler →
    ∀ step, (handler step).Confined may crash
  validation : ∀ name handler, r.validation? name = some handler →
    ∀ v scope, (handler v scope).Confined may crash

/-- No handler ever crashes. -/
def Registry.Steady (r : Registry) : Prop := r.Confined (fun _ => True) False

section

variable {may : Request → Prop} {crash : Prop} (own : ∀ q, q.IsOwn → may q)

include own

theorem Play.confined_congruence : Play.Congruence fun p _ => p.Confined may crash :=
  .of_requests (fun _ => Play.confined_pure _) (fun first goesOn => Play.confined_bind first goesOn)
    (fun q mine => Play.confined_request (own q mine)) fun deadline _ _ h =>
      Play.confined_within deadline h

omit own in
theorem Registry.confined_iff_related {r : Registry} :
    r.Confined may crash ↔ r.Related (fun p _ => p.Confined may crash) r := by
  constructor
  · exact fun h => related_self (fun name k => h.action name k) fun name k => h.validation name k
  · exact fun h => ⟨fun _ _ found => h.action_of_found found,
      fun _ _ found => h.validation_of_found found⟩

theorem Registry.Parametric.confined {r : Registry} (h : r.Parametric) : r.Confined may crash :=
  Registry.confined_iff_related.mpr (h (Play.confined_congruence own))

theorem Step.runAll_confined {r : Runner} (handlers : r.registry.Confined may crash)
    (position : Nat) (steps : List Step) : (Step.runAll r position steps).Confined may crash :=
  (Play.confined_congruence own).runAll (Registry.confined_iff_related.mp handlers)
    (Play.confined_request (own .clock trivial)) position steps

end

end Walkthrough
