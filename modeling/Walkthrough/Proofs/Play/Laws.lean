import Walkthrough.Play.World

/-!
Laws of plays. They are a lawful monad, and to perform a play that goes on as another is to perform
the one and then the other in the world that it left.
-/
namespace Walkthrough

namespace Play

variable {σ α β γ : Type}

theorem bind_done (p : Play α) : p.bind .done = p := by
  induction p with
  | done a => rfl
  | crash => rfl
  | ask r next ih => exact congrArg (Play.ask r) (funext ih)
  | askBy deadline r next ih => exact congrArg (Play.askBy deadline r) (funext ih)

theorem bind_assoc (p : Play α) (f : α → Play β) (g : β → Play γ) :
    (p.bind f).bind g = p.bind fun a => (f a).bind g := by
  induction p with
  | done a => rfl
  | crash => rfl
  | ask r next ih => exact congrArg (Play.ask r) (funext ih)
  | askBy deadline r next ih => exact congrArg (Play.askBy deadline r) (funext ih)

instance : LawfulMonad Play :=
  LawfulMonad.mk' Play bind_done (fun _ _ => rfl) bind_assoc

@[simp] theorem perform_pure (page : Page σ) (a : α) (w : World σ) :
    (pure a : Play α).perform page w = ⟨some a, [], w⟩ := rfl

@[simp] theorem perform_clock_bind (page : Page σ) (next : Nat → Play α) (w : World σ) :
    (clock >>= next).perform page w = (next w.now).perform page w := rfl

@[simp] theorem perform_newId_bind (page : Page σ) (next : RunId → Play α) (w : World σ) :
    (newId >>= next).perform page w =
      (next (.ofRandom w.ids)).perform page { w with ids := w.ids + 1 } := rfl

theorem perform_call_bind (page : Page σ) (c : Call) (next : c.Answer → Play α) (w : World σ) :
    (call c >>= next).perform page w =
      let rest := (next (w.answer page (.call c)).1).perform page (w.answer page (.call c)).2
      { rest with calls := ⟨w.now, c⟩ :: rest.calls } := rfl

end Play

def Course.andThen {σ α β : Type} (page : Page σ) (c : Course σ α) (next : α → Play β) :
    Course σ β :=
  match c.result with
  | none => ⟨none, c.calls, c.world⟩
  | some a =>
    let d := (next a).perform page c.world
    { d with calls := c.calls ++ d.calls }

namespace Play

variable {σ α β : Type}

theorem andThen_after_calls (page : Page σ) (made : List TimedCall) (c : Course σ α)
    (next : α → Play β) :
    Course.andThen page { c with calls := made ++ c.calls } next =
      { c.andThen page next with calls := made ++ (c.andThen page next).calls } := by
  unfold Course.andThen
  cases c.result <;> simp

theorem perform_bind (page : Page σ) (p : Play α) (next : α → Play β) (w : World σ) :
    (p >>= next).perform page w = (p.perform page w).andThen page next := by
  change (p.bind next).perform page w = _
  induction p generalizing w with
  | done a => rfl
  | crash => rfl
  | ask r rest ih =>
    simp only [bind, perform, ih]
    exact (andThen_after_calls page _ _ next).symm
  | askBy deadline r rest ih =>
    simp only [bind, perform, ih]
    split
    · exact (andThen_after_calls page _ _ next).symm
    · exact (andThen_after_calls page _ _ next).symm

theorem perform_bind_pure (page : Page σ) (p : Play α) (f : α → β) (w : World σ) :
    (p >>= fun a => pure (f a)).perform page w =
      let c := p.perform page w
      ⟨c.result.map f, c.calls, c.world⟩ := by
  rw [perform_bind]
  unfold Course.andThen
  split <;> rename_i ends <;> simp [ends]

theorem perform_of_advance? {page : Page σ} {p next : Play α} {w after : World σ}
    {made : List TimedCall} (h : p.advance? page w = some (next, made, after)) :
    p.perform page w =
      let rest := next.perform page after
      { rest with calls := made ++ rest.calls } := by
  cases p with
  | done a => cases h
  | crash => cases h
  | ask r rest =>
    cases h
    rfl
  | askBy deadline r rest =>
    simp only [advance?] at h
    simp only [perform]
    split at h
    · rename_i inTime
      cases h
      rw [if_pos inTime]
    · rename_i late
      cases h
      rw [if_neg late]

theorem perform_of_advance?_none {page : Page σ} {p : Play α} {w : World σ}
    (h : p.advance? page w = none) : p.perform page w = ⟨p.value?, [], w⟩ := by
  cases p with
  | done a => rfl
  | crash => rfl
  | ask r rest => cases h
  | askBy deadline r rest =>
    simp only [advance?] at h
    split at h <;> cases h

theorem now_le_answer (page : Page σ) (w : World σ) (r : Request) :
    w.now ≤ (w.answer page r).2.now := by
  cases r <;> simp [World.answer]

theorem now_le_giveUp (page : Page σ) (w : World σ) (deadline : Nat) (r : Request) :
    w.now ≤ (w.giveUp page deadline r).now := by
  cases r <;> exact Nat.le_max_left ..

theorem now_le_perform (page : Page σ) (p : Play α) (w : World σ) :
    w.now ≤ (p.perform page w).world.now := by
  induction p generalizing w with
  | done a => exact Nat.le_refl _
  | crash => exact Nat.le_refl _
  | ask r rest ih => exact Nat.le_trans (now_le_answer page w r) (ih _ _)
  | askBy deadline r rest ih =>
    simp only [perform]
    split
    · exact Nat.le_trans (now_le_answer page w r) (ih _ _)
    · exact Nat.le_trans (now_le_giveUp page w deadline r) (ih _ _)

end Play

end Walkthrough
