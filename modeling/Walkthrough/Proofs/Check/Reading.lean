import Walkthrough.Page.Memory
import Walkthrough.Proofs.Check.Requests
import Walkthrough.Proofs.Handler.Builtin
import Walkthrough.Proofs.Run.Timeless
import Walkthrough.Proofs.Play.Alike
import Walkthrough.Proofs.Run.Units

/-!
Validations only look. On a page in memory they leave everything as it is but the time, so each of
them comes to the same verdict wherever it stands among others.
-/
namespace Walkthrough

variable {σ : Type}

def Request.Observes : Request → Prop
  | .call c => c.IsReading
  | .sleep _ | .clock => True
  | _ => False

theorem Request.IsTiming.observes {q : Request} (timing : q.IsTiming) : q.Observes := by
  cases q <;> trivial

theorem MemoryPage.serve_reading (p : MemoryPage) {c : Call} (reads : c.IsReading) :
    (p.serve c).2 = p := by
  have read {α : Type} (t : Target) (get : Element → α) : (p.read t get).2 = p := by
    unfold MemoryPage.read
    split <;> rfl
  cases c with
  | title | url | content | isVisible => rfl
  | textContent | inputValue | getAttribute | computedStyle => exact read ..
  | _ => exact reads.elim

/-- Between the two worlds nothing but the time has changed. -/
def World.Untouched (w v : World σ) : Prop := ∃ now, v = { w with now := now }

namespace World

theorem untouched_refl (w : World σ) : w.Untouched w := ⟨w.now, rfl⟩

theorem Untouched.trans {w v u : World σ} (first : w.Untouched v) (second : v.Untouched u) :
    w.Untouched u := by
  obtain ⟨_, rfl⟩ := first
  obtain ⟨now, rfl⟩ := second
  exact ⟨now, rfl⟩

theorem Untouched.alike {w v : World σ} (h : w.Untouched v) : w.Alike v := by
  obtain ⟨_, rfl⟩ := h
  exact ⟨rfl, rfl⟩

variable {q : Request}

theorem answer_untouched (observes : q.Observes) (w : World MemoryPage) :
    w.Untouched (w.answer MemoryPage.page q).2 := by
  cases q with
  | call c =>
    refine ⟨w.now, ?_⟩
    simp only [answer, MemoryPage.page, w.page.serve_reading observes, Nat.add_zero]
  | sleep ms => exact ⟨w.now + ms, rfl⟩
  | clock => exact w.untouched_refl
  | context | keep | newId => exact observes.elim

theorem giveUp_untouched (q : Request) (deadline : Nat) (w : World MemoryPage) :
    w.Untouched (w.giveUp MemoryPage.page deadline q) := by
  cases q <;> exact ⟨max w.now deadline, rfl⟩

end World

theorem Play.Confined.untouched {α : Type} {crash : Prop} {p : Play α}
    (h : p.Confined Request.Observes crash) (w : World MemoryPage) :
    w.Untouched (p.perform MemoryPage.page w).world := by
  induction p generalizing w with
  | done a => exact w.untouched_refl
  | crash => exact w.untouched_refl
  | ask q next ih => exact (World.answer_untouched h.1 w).trans (ih _ (h.2 _) _)
  | askBy deadline q next ih =>
    simp only [perform]
    split
    · exact (World.answer_untouched h.1 w).trans (ih _ (h.2 _) _)
    · exact (World.giveUp_untouched q deadline w).trans (ih _ (h.2 _) _)

theorem ContainsText.probe_observes (needle : String) (target : Option Target) :
    (ContainsText.probe needle target).Confined Request.Observes False := by
  cases target with
  | none => exact Play.confined_bind (Play.confined_request trivial) fun _ => Play.confined_pure _
  | some t => exact Play.confined_bind (Play.confined_request trivial) fun _ => Play.confined_pure _

theorem ContainsText.handler_observes (v : Validation) (scope : Scope) :
    (ContainsText.handler v scope).run.Confined Request.Observes False := by
  have polled := Expect.poll_confined (fun _ => Request.IsTiming.observes) scope.expect
    (probe_observes v.dataText scope.target)
  unfold handler
  dsimp only
  split
  · exact Play.confined_pure _
  · refine Play.confined_bind (Play.confined_bind polled fun _ => Play.confined_pure _) fun x => ?_
    rcases x with _ | _ | _ <;> exact Play.confined_pure _

theorem Validation.evaluate_observes (v : Validation) {r : Runner}
    (builtin : r.registry = .builtin) (target : Option Target) :
    (v.evaluate r target).run.Confined Request.Observes False := by
  refine evaluate_confined (fun _ => Request.IsTiming.observes)
    (fun own a _ asserts => (assertion?_reads asserts).1) fun _ own _ => ?_
  cases found : r.registry.validation? (v.customName.getD "") with
  | none =>
    simp only [callHandler, found]
    exact Play.confined_pure _
  | some handler =>
    rw [callHandler_run found]
    rw [builtin] at found
    cases Registry.builtin_validation found
    exact Play.confined_bind (ContainsText.handler_observes v _) fun _ => Play.confined_pure _

/-- On a page in memory each validation has a verdict, whatever is evaluated before it, and what a
list of them comes to is made of those. -/
structure Step.Verdicts (r : Runner) (target : Option Target) (w : World MemoryPage)
    (verdict : Validation → Except StepFault Verdict) : Prop where
  alone : ∀ v w', w.Alike w' →
    ((v.evaluate r target).run.perform MemoryPage.page w').result = some (verdict v)
  after : ∀ (before : List Validation) v, ((v.evaluate r target).run.perform MemoryPage.page
    ((evaluateAll r target before).perform MemoryPage.page w).world).result = some (verdict v)
  result : ∀ vs, ((evaluateAll r target vs).perform MemoryPage.page w).result =
    some (.ofResults (vs.map verdict))
  untouched : ∀ vs, w.Untouched ((evaluateAll r target vs).perform MemoryPage.page w).world

section

variable {r : Runner} (builtin : r.registry = .builtin)

include builtin

theorem Validation.evaluate_alike (v : Validation) (target : Option Target) (page : Page σ) :
    Play.Alike page Eq (v.evaluate r target).run (v.evaluate r target).run := by
  have timeless : r.registry.Timeless := builtin ▸ Registry.builtin_timeless
  exact Play.alike_of_later (fun k => (Play.later_congruence k).evaluate (timeless k) v target) page

theorem Validation.exists_verdict (target : Option Target) (w : World MemoryPage) (v : Validation) :
    ∃ verdict, ∀ w', w.Alike w' →
      ((v.evaluate r target).run.perform MemoryPage.page w').result = some verdict := by
  have observes := v.evaluate_observes builtin target
  cases ended : ((v.evaluate r target).run.perform MemoryPage.page w).result with
  | none => exact (observes.result MemoryPage.page w ended).elim
  | some verdict =>
    refine ⟨verdict, fun w' worlds => ?_⟩
    have results := (evaluate_alike builtin v target MemoryPage.page w w' worlds).result
    rw [ended] at results
    generalize ((v.evaluate r target).run.perform MemoryPage.page w').result = x at results ⊢
    cases results with
    | some eq => rw [eq]

namespace Step

theorem evaluateAll_perform {target : Option Target} {start : World MemoryPage}
    {verdict : Validation → Except StepFault Verdict} (alone : ∀ v w, start.Alike w →
      ((v.evaluate r target).run.perform MemoryPage.page w).result = some (verdict v))
    (vs : List Validation) {w : World MemoryPage} (worlds : start.Alike w) :
    ((evaluateAll r target vs).perform MemoryPage.page w).result =
        some (.ofResults (vs.map verdict)) ∧
      w.Untouched ((evaluateAll r target vs).perform MemoryPage.page w).world := by
  induction vs generalizing w with
  | nil => exact ⟨rfl, w.untouched_refl⟩
  | cons v rest ih =>
    -- What `v` leaves is still alike to the start, where all verdicts are given.
    have first := (v.evaluate_observes builtin target).untouched w
    obtain ⟨results, others⟩ := ih (worlds.trans first.alike)
    rw [evaluateAll, Play.perform_bind]
    simp only [Course.andThen, alone v w worlds, List.map_cons]
    cases verdict v with
    | error fault => exact ⟨rfl, first⟩
    | ok x =>
      simp only [Play.perform_bind_pure, results]
      exact ⟨rfl, first.trans others⟩

theorem exists_verdicts (target : Option Target) (w : World MemoryPage) :
    ∃ verdict, Verdicts r target w verdict := by
  obtain ⟨verdict, alone⟩ := Classical.skolem.mp (Validation.exists_verdict builtin target w)
  have performs (vs : List Validation) := evaluateAll_perform builtin alone vs (.refl w)
  exact ⟨verdict, alone, fun before v => alone v _ (performs before).2.alike,
    fun vs => (performs vs).1, fun vs => (performs vs).2⟩

end Step

end

end Walkthrough
