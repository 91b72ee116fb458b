import Walkthrough.Handler.Builtin
import Walkthrough.Proofs.Run.Requests

/-!
The handlers that every registry begins with do no more than the runner itself: they make calls,
without closing the page, and poll it.
-/
namespace Walkthrough

theorem SelectWord.gestures_open (order : Order) (b : Box) :
    ∀ c ∈ gestures order b, c ≠ .close := by
  unfold gestures
  split
  all_goals simp

section

variable {R : {α : Type} → Play α → Play α → Prop} (keeps : Play.Congruence R)

include keeps

theorem SelectWord.makeAll_related {calls : List Call} (open_ : ∀ c ∈ calls, c ≠ .close) :
    R (SelectWord.makeAll calls).run (SelectWord.makeAll calls).run := by
  induction calls with
  | nil => exact keeps.attempt_pure _
  | cons c rest ih =>
    rw [List.forall_mem_cons] at open_
    exact keeps.attempt_bind (keeps.handlerCall open_.1) fun _ => ih open_.2

theorem SelectWord.orFail_related {α : Type} (x : Except SelectWord.Fault α) :
    R (SelectWord.orFail x).run (SelectWord.orFail x).run := by
  cases x with
  | ok a => exact keeps.attempt_pure _
  | error fault => exact keeps.attempt_throw _

theorem SelectWord.handler_related (s : Step) :
    R (SelectWord.handler s).run (SelectWord.handler s).run := by
  refine keeps.attempt_bind (orFail_related keeps _) fun order => ?_
  refine keeps.attempt_bind (keeps.handlerCall nofun) fun found => ?_
  refine keeps.attempt_bind (orFail_related keeps _) fun box => ?_
  exact makeAll_related keeps (gestures_open order box)

theorem QueryResponse.ifPresent_related (selector : Option String) {c : Target → Call}
    (open_ : ∀ t, c t ≠ .close) :
    R (QueryResponse.ifPresent selector c).run (QueryResponse.ifPresent selector c).run := by
  unfold ifPresent
  split
  · exact keeps.attempt_pure _
  · refine keeps.attempt_bind (keeps.handlerCall nofun) fun found => ?_
    split
    · exact keeps.attempt_bind (keeps.handlerCall (open_ _)) fun _ => keeps.attempt_pure _
    · exact keeps.attempt_pure _

theorem QueryResponse.handler_related (s : Step) :
    R (QueryResponse.handler s).run (QueryResponse.handler s).run := by
  unfold handler
  dsimp only
  split
  · exact keeps.attempt_bind (ifPresent_related keeps _ nofun) fun _ =>
      ifPresent_related keeps _ nofun
  · exact keeps.attempt_throw _

theorem ContainsText.probe_related (needle : String) (target : Option Target) :
    R (ContainsText.probe needle target) (ContainsText.probe needle target) := by
  cases target with
  | none => exact keeps.bind (keeps.call _ nofun) fun _ => keeps.done _
  | some t => exact keeps.bind (keeps.call _ nofun) fun _ => keeps.done _

theorem ContainsText.handler_related (v : Validation) (scope : Scope) :
    R (ContainsText.handler v scope).run (ContainsText.handler v scope).run := by
  have polled := keeps.poll scope.expect (probe_related keeps v.dataText scope.target)
  unfold handler
  dsimp only
  split
  · exact keeps.attempt_throw _
  · refine keeps.attempt_bind (keeps.attempt_ofPlay polled) fun x => ?_
    split
    · exact keeps.attempt_pure _
    · exact keeps.attempt_throw _

end

theorem Registry.builtin_action {name : String} {handler : ActionHandler}
    (found : Registry.builtin.action? name = some handler) :
    handler = SelectWord.handler ∨ handler = QueryResponse.handler := by
  have entries : Registry.builtin.actions =
      [("queryResponse", QueryResponse.handler), ("selectWord", SelectWord.handler)] := rfl
  obtain ⟨before, after, split, _⟩ := List.lookup_eq_some_iff.mp found
  have member : (name, handler) ∈ Registry.builtin.actions := by simp [split]
  simp only [entries, List.mem_cons, Prod.mk.injEq, List.not_mem_nil, or_false] at member
  rcases member with first | second
  · exact Or.inr first.2
  · exact Or.inl second.2

theorem Registry.builtin_validation {name : String} {handler : ValidationHandler}
    (found : Registry.builtin.validation? name = some handler) :
    handler = ContainsText.handler := by
  have entries : Registry.builtin.validations = [("containsText", ContainsText.handler)] := rfl
  obtain ⟨before, after, split, _⟩ := List.lookup_eq_some_iff.mp found
  have member : (name, handler) ∈ Registry.builtin.validations := by simp [split]
  simp only [entries, List.mem_singleton, Prod.mk.injEq] at member
  exact member.2

theorem Registry.builtin_parametric : Registry.builtin.Parametric := by
  intro R keeps
  refine related_self ?_ ?_
  · intro name handler found s
    rcases builtin_action found with rfl | rfl
    · exact SelectWord.handler_related keeps s
    · exact QueryResponse.handler_related keeps s
  · intro name handler found v scope
    cases builtin_validation found
    exact ContainsText.handler_related keeps v scope

theorem Registry.builtin_steady : Registry.builtin.Steady :=
  builtin_parametric.confined fun _ _ => trivial

end Walkthrough
