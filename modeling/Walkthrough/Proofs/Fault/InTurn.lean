import Mathlib.Data.List.Forall2

/-!
Lists that are gone through in turn, up to the first item that fails. What comes of the items is put
together in their order.
-/
namespace Walkthrough

variable {ε α β γ : Type}

theorem inTurn_eq_ok_iff {x : Except ε α} {y : Except ε β} {f : α → β → γ} {c : γ} :
    (do let a ← x; let b ← y; return f a b) = Except.ok c ↔
      ∃ a b, x = .ok a ∧ y = .ok b ∧ c = f a b := by
  cases x with
  | error e => simp [bind, Except.bind]
  | ok a =>
    cases y with
    | error e => simp [bind, Except.bind]
    | ok b => simp [bind, Except.bind, pure, Except.pure, eq_comm]

theorem inTurn_eq_error_iff {x : Except ε α} {y : Except ε β} {f : α → β → γ} {e : ε} :
    (do let a ← x; let b ← y; return f a b) = Except.error e ↔
      x = .error e ∨ (∃ a, x = .ok a) ∧ y = .error e := by
  cases x with
  | error e => simp [bind, Except.bind]
  | ok a =>
    cases y with
    | error e => simp [bind, Except.bind]
    | ok b => simp [bind, Except.bind, pure, Except.pure]

structure GoesInTurn (each : α → Except ε β) (take : β → List γ)
    (all : List α → Except ε (List γ)) : Prop where
  nil : all [] = .ok []
  cons : ∀ a rest, all (a :: rest) = do
    let b ← each a
    let others ← all rest
    return take b ++ others

namespace GoesInTurn

variable {each : α → Except ε β} {take : β → List γ} {all : List α → Except ε (List γ)}

theorem ok_iff (goes : GoesInTurn each take all) {items : List α} {out : List γ} :
    all items = .ok out ↔
      ∃ parts, List.Forall₂ (fun a b => each a = .ok b) items parts ∧ out = parts.flatMap take := by
  induction items generalizing out with
  | nil => simp [goes.nil, eq_comm]
  | cons a rest ih =>
    rw [goes.cons, inTurn_eq_ok_iff]
    constructor
    · rintro ⟨part, others, first, later, rfl⟩
      obtain ⟨parts, served, rfl⟩ := ih.mp later
      exact ⟨part :: parts, .cons first served, rfl⟩
    · rintro ⟨_, _ | ⟨first, served⟩, rfl⟩
      exact ⟨_, _, first, ih.mpr ⟨_, served, rfl⟩, rfl⟩

theorem error_iff (goes : GoesInTurn each take all) {items : List α} {e : ε} :
    all items = .error e ↔ ∃ before a after, items = before ++ a :: after ∧
      (∀ earlier ∈ before, ∃ b, each earlier = .ok b) ∧ each a = .error e := by
  induction items with
  | nil => simp [goes.nil]
  | cons a rest ih =>
    rw [goes.cons, inTurn_eq_error_iff, ih]
    constructor
    · rintro (fails | ⟨first, before, later, after, rfl, served, fails⟩)
      · exact ⟨[], a, rest, rfl, by simp, fails⟩
      · exact ⟨a :: before, later, after, rfl, List.forall_mem_cons.mpr ⟨first, served⟩, fails⟩
    · rintro ⟨before, later, after, split_, served, fails⟩
      rcases before with _ | ⟨_, more⟩
      · cases split_
        exact .inl fails
      · cases split_
        rw [List.forall_mem_cons] at served
        exact .inr ⟨served.1, more, later, after, rfl, served.2, fails⟩

theorem fails_iff (goes : GoesInTurn each take all) {items : List α} :
    (∃ e, all items = .error e) ↔ ∃ a ∈ items, ∃ e, each a = .error e := by
  induction items with
  | nil => simp [goes.nil]
  | cons a rest ih =>
    simp only [goes.cons, inTurn_eq_error_iff, exists_or, exists_and_left, ih, List.mem_cons,
      exists_eq_or_imp]
    cases each a <;> simp

theorem append (goes : GoesInTurn each take all) (first second : List α) :
    all (first ++ second) = do
      let x ← all first
      let y ← all second
      return x ++ y := by
  induction first with
  | nil =>
    rw [List.nil_append, goes.nil]
    cases all second <;> rfl
  | cons a rest ih =>
    rw [List.cons_append, goes.cons, goes.cons, ih]
    cases each a with
    | error e => rfl
    | ok b =>
      cases all rest with
      | error e => rfl
      | ok others =>
        cases all second with
        | error e => rfl
        | ok more => exact congrArg Except.ok (List.append_assoc ..).symm

end GoesInTurn

end Walkthrough
