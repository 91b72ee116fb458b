import Walkthrough.Proofs.Play.Ensures

/-!
Plays that heed faults: a call that fails, or that is given up at a deadline, is the last thing they
ask for, and they fail themselves.
-/
namespace Walkthrough

def Request.Fails : (r : Request) → r.Answer → Prop
  | .call _, .error _ => True
  | _, _ => False

namespace Play

variable {α β : Type}

def Failed (failed : α → Prop) (p : Play α) : Prop := ∃ a, p = .done a ∧ failed a

/-- The play never crashes, makes allowed requests only, and has failed once one of its calls has
failed or was given up. -/
def Heeds (may : Request → Prop) (failed : α → Prop) : Play α → Prop
  | .done _ => True
  | .crash => False
  | .ask r next => may r ∧ ∀ answer, (next answer).Heeds may failed ∧
    (r.Fails answer → (next answer).Failed failed)
  | .askBy _ r next => may r ∧ (next none).Failed failed ∧ ∀ answer,
    (next (some answer)).Heeds may failed ∧
      (r.Fails answer → (next (some answer)).Failed failed)

variable {may : Request → Prop} {failed : α → Prop} {failed' : β → Prop}

theorem Failed.bind {p : Play α} {next : α → Play β} (h : p.Failed failed)
    (keeps : ∀ a, failed a → (next a).Failed failed') : (p >>= next).Failed failed' := by
  obtain ⟨a, rfl, holds⟩ := h
  exact keeps a holds

theorem heeds_bind {p : Play α} {next : α → Play β} (h : p.Heeds may failed)
    (goesOn : ∀ a, (next a).Heeds may failed')
    (keeps : ∀ a, failed a → (next a).Failed failed') : (p >>= next).Heeds may failed' := by
  change (p.bind next).Heeds may failed'
  induction p with
  | done a => exact goesOn a
  | crash => exact h.elim
  | ask r rest ih =>
    refine ⟨h.1, fun answer => ⟨ih answer (h.2 answer).1, fun fails => ?_⟩⟩
    exact Failed.bind ((h.2 answer).2 fails) keeps
  | askBy deadline r rest ih =>
    refine ⟨h.1, Failed.bind h.2.1 keeps, fun answer => ⟨ih _ (h.2.2 answer).1, fun fails => ?_⟩⟩
    exact Failed.bind ((h.2.2 answer).2 fails) keeps

theorem heeds_call {c : Call} (allowed : may (.call c)) :
    (call c).Heeds may fun x => ∃ fault, x = .error fault := by
  refine ⟨allowed, fun answer => ⟨trivial, fun fails => ?_⟩⟩
  cases answer with
  | error fault => exact ⟨_, rfl, fault, rfl⟩
  | ok x => exact fails.elim

theorem heeds_request_bind {r : Request} {next : r.Answer → Play α} (allowed : may r)
    (safe : ∀ answer, ¬ r.Fails answer) (goesOn : ∀ answer, (next answer).Heeds may failed) :
    (request r >>= next).Heeds may failed :=
  ⟨allowed, fun answer => ⟨goesOn answer, fun fails => absurd fails (safe answer)⟩⟩

theorem heeds_within {p : Play α} (deadline : Nat) (h : p.Heeds may failed) :
    (p.within deadline).Heeds may fun o => ∀ a, o = some a → failed a := by
  have failedWithin : ∀ {q : Play α}, q.Failed failed →
      (q.within deadline).Failed fun o => ∀ a, o = some a → failed a := by
    rintro _ ⟨a, rfl, holds⟩
    exact ⟨some a, rfl, fun b eq => Option.some.inj eq ▸ holds⟩
  have givenUp : (done none : Play (Option α)).Failed fun o => ∀ a, o = some a → failed a :=
    ⟨none, rfl, by simp⟩
  induction p with
  | done a => trivial
  | crash => exact h.elim
  | ask r next ih =>
    simp only [within]
    refine ⟨h.1, givenUp, fun answer => ⟨ih answer (h.2 answer).1, fun fails => ?_⟩⟩
    exact failedWithin ((h.2 answer).2 fails)
  | askBy earlier r next ih =>
    simp only [within]
    split
    -- The play's own deadline counts when it is the earlier one, and giving up there fails as well.
    · refine ⟨h.1, failedWithin h.2.1, fun answer => ⟨ih _ (h.2.2 answer).1, fun fails => ?_⟩⟩
      exact failedWithin ((h.2.2 answer).2 fails)
    · refine ⟨h.1, givenUp, fun answer => ⟨ih _ (h.2.2 answer).1, fun fails => ?_⟩⟩
      exact failedWithin ((h.2.2 answer).2 fails)

end Play

namespace Attempt

variable {ε α β : Type} {may : Request → Prop}

def Heeds (may : Request → Prop) (a : Attempt ε α) : Prop :=
  a.run.Heeds may fun x => ∃ e, x = .error e

theorem heeds_pure (a : α) : (pure a : Attempt ε α).Heeds may := trivial

theorem heeds_throw (e : ε) : (throw e : Attempt ε α).Heeds may := trivial

theorem heeds_of_run {γ : Type} {a : Attempt ε α} {p : Play γ} {f : γ → Except ε α}
    {failed : γ → Prop} (runs : a.run = p >>= fun x => pure (f x)) (h : p.Heeds may failed)
    (keeps : ∀ x, failed x → ∃ e, f x = .error e) : a.Heeds may := by
  unfold Heeds
  rw [runs]
  exact Play.heeds_bind h (fun _ => trivial) fun x fails => ⟨_, rfl, keeps x fails⟩

theorem heeds_bind {a : Attempt ε α} {next : α → Attempt ε β} (first : a.Heeds may)
    (goesOn : ∀ x, (next x).Heeds may) : (a >>= next).Heeds may := by
  refine Play.heeds_bind first (fun x => ?_) ?_
  · cases x with
    | ok x => exact goesOn x
    | error e => trivial
  · rintro _ ⟨e, rfl⟩
    exact ⟨_, rfl, e, rfl⟩

end Attempt

end Walkthrough
