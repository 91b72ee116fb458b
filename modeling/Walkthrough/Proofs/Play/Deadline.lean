import Walkthrough.Proofs.Play.Laws

/-!
Plays with a deadline. A play that is over by its deadline is left as it is. Any other is cut at the
deadline: it has made the calls that the whole play begins by then, and none that begins later.
-/
namespace Walkthrough

variable {σ α β : Type}

/-- The second course ends at a deadline, with the calls of the first that began by then. -/
structure Course.CutAt (deadline : Nat) (whole : Course σ α) (cut : Course σ β) : Prop where
  now : cut.world.now = deadline
  begun : ∀ c ∈ cut.calls, c.time ≤ deadline
  calls : ∃ later, whole.calls = cut.calls ++ later ∧ ∀ c ∈ later, deadline < c.time

theorem Course.CutAt.after_calls {deadline : Nat} {whole : Course σ α} {cut : Course σ β}
    {made : List TimedCall} (h : whole.CutAt deadline cut) (begun : ∀ c ∈ made, c.time ≤ deadline) :
    Course.CutAt deadline { whole with calls := made ++ whole.calls }
      { cut with calls := made ++ cut.calls } := by
  obtain ⟨later, split, after⟩ := h.calls
  exact ⟨h.now, List.forall_mem_append.mpr ⟨begun, h.begun⟩, later, by simp [split], after⟩

namespace World

variable (page : Page σ) (w : World σ)

theorem answer_now (r : Request) : (w.answer page r).2.now = w.now + w.delay page r := by
  cases r <;> rfl

theorem giveUp_now (deadline : Nat) (r : Request) :
    (w.giveUp page deadline r).now = max w.now deadline := by
  cases r <;> rfl

theorem callOf_time {r : Request} : ∀ c ∈ w.callOf r, c.time = w.now := by
  cases r <;> simp [callOf]

theorem callOf_begun {w : World σ} {deadline : Nat} (begins : w.now ≤ deadline) (r : Request) :
    ∀ c ∈ w.callOf r, c.time ≤ deadline :=
  fun c member => Nat.le_trans (Nat.le_of_eq (w.callOf_time c member)) begins

end World

namespace Play

variable (page : Page σ)

theorem now_le_calls (p : Play α) (w : World σ) :
    ∀ c ∈ (p.perform page w).calls, w.now ≤ c.time := by
  have made (w : World σ) (r : Request) : ∀ c ∈ w.callOf r, w.now ≤ c.time :=
    fun c member => Nat.le_of_eq (w.callOf_time c member).symm
  induction p generalizing w with
  | done a => nofun
  | crash => nofun
  | ask r next ih =>
    refine List.forall_mem_append.mpr ⟨made w r, fun c member => ?_⟩
    exact Nat.le_trans (now_le_answer page w r) (ih _ _ c member)
  | askBy deadline r next ih =>
    simp only [perform]
    split
    · refine List.forall_mem_append.mpr ⟨made w r, fun c member => ?_⟩
      exact Nat.le_trans (now_le_answer page w r) (ih _ _ c member)
    · refine List.forall_mem_append.mpr ⟨made w r, fun c member => ?_⟩
      exact Nat.le_trans (now_le_giveUp page w deadline r) (ih _ _ c member)

theorem perform_within_inTime {deadline : Nat} (p : Play α) (w : World σ)
    (inTime : (p.perform page w).world.now ≤ deadline) :
    (p.within deadline).perform page w =
      let whole := p.perform page w
      ⟨whole.result.map some, whole.calls, whole.world⟩ := by
  induction p generalizing w with
  | done a => rfl
  | crash => rfl
  | ask r next ih =>
    have answered := now_le_perform page (next (w.answer page r).1) (w.answer page r).2
    rw [World.answer_now] at answered
    have due : w.now + w.delay page r ≤ deadline := Nat.le_trans answered inTime
    simp only [within, perform, if_pos due, ih (w.answer page r).1 (w.answer page r).2 inTime]
  | askBy earlier r next ih =>
    simp only [perform] at inTime
    simp only [within]
    split
    · simp only [perform]
      split
      · rename_i due
        rw [if_pos due] at inTime
        simp only [ih _ _ inTime]
      · rename_i late
        rw [if_neg late] at inTime
        simp only [ih _ _ inTime]
    · rename_i later
      -- Giving up at a deadline of its own would take the play past this one.
      have due : w.now + w.delay page r ≤ earlier := by
        refine Decidable.by_contra fun late => ?_
        rw [if_neg late] at inTime
        have ended := now_le_perform page (next none) (w.giveUp page earlier r)
        rw [World.giveUp_now] at ended
        simp only at inTime
        omega
      rw [if_pos due] at inTime
      have answered := now_le_perform page (next (some (w.answer page r).1)) (w.answer page r).2
      rw [World.answer_now] at answered
      have dueHere : w.now + w.delay page r ≤ deadline := Nat.le_trans answered inTime
      simp only [perform, if_pos due, if_pos dueHere, ih _ _ inTime]

theorem cutAt_request {deadline : Nat} {r : Request} {w after cut : World σ} (result : Option β)
    (rest : Play α) (begins : w.now ≤ deadline) (later : deadline < after.now)
    (ends : cut.now = deadline) :
    let d := rest.perform page after
    Course.CutAt deadline { d with calls := w.callOf r ++ d.calls }
      ⟨result, w.callOf r, cut⟩ := by
  refine ⟨ends, World.callOf_begun begins r, _, rfl, fun c member => ?_⟩
  exact Nat.lt_of_lt_of_le later (now_le_calls page rest after c member)

theorem perform_within_late {deadline : Nat} (p : Play α) (w : World σ)
    (begins : w.now ≤ deadline) (late : deadline < (p.perform page w).world.now) :
    ((p.within deadline).perform page w).result = some none ∧
      (p.perform page w).CutAt deadline ((p.within deadline).perform page w) := by
  induction p generalizing w with
  | done a => exact absurd late (Nat.not_lt.mpr begins)
  | crash => exact absurd late (Nat.not_lt.mpr begins)
  | ask r next ih =>
    have answered := w.answer_now page r
    simp only [within, perform]
    split
    · rename_i due
      obtain ⟨none, cut⟩ := ih (w.answer page r).1 (w.answer page r).2 (by omega) late
      exact ⟨none, cut.after_calls (World.callOf_begun begins r)⟩
    · have ends := w.giveUp_now page deadline r
      refine ⟨rfl, ?_⟩
      simpa using cutAt_request page (some none) (next _) begins (by omega) (by omega)
  | askBy earlier r next ih =>
    have answered := w.answer_now page r
    have stopped := w.giveUp_now page earlier r
    simp only [within]
    split
    · simp only [perform] at late ⊢
      split at late
      · rename_i due
        obtain ⟨none, cut⟩ := ih (some (w.answer page r).1) (w.answer page r).2 (by omega) late
        simp only [if_pos due]
        exact ⟨none, cut.after_calls (World.callOf_begun begins r)⟩
      · rename_i notDue
        obtain ⟨none, cut⟩ := ih Option.none (w.giveUp page earlier r) (by omega) late
        simp only [if_neg notDue]
        exact ⟨none, cut.after_calls (World.callOf_begun begins r)⟩
    · rename_i later
      have ends := w.giveUp_now page deadline r
      simp only [perform] at late ⊢
      by_cases due : w.now + w.delay page r ≤ deadline
      · have dueThen : w.now + w.delay page r ≤ earlier := by omega
        simp only [if_pos due, if_pos dueThen] at late ⊢
        obtain ⟨none, cut⟩ := ih (some (w.answer page r).1) (w.answer page r).2 (by omega) late
        exact ⟨none, cut.after_calls (World.callOf_begun begins r)⟩
      · rw [if_neg due]
        refine ⟨rfl, ?_⟩
        split
        · simpa using cutAt_request page (some none) (next _) begins (by omega) (by omega)
        · simpa using cutAt_request page (some none) (next _) begins (by omega) (by omega)

end Play

end Walkthrough
