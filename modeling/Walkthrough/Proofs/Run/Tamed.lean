import Walkthrough.Proofs.Run.Parametric

/-!
Handlers that crash, and the same handlers when they fail instead. A run that comes to its end does
not tell the one from the other.
-/
namespace Walkthrough

variable {σ α β : Type}

namespace Play

/-- The second play does what the first does, and goes on where that one crashes. -/
inductive Survives : Play α → Play α → Prop where
  | done (a : α) : Survives (.done a) (.done a)
  | crash (q : Play α) : Survives .crash q
  | ask {r : Request} {next other : r.Answer → Play α}
      (h : ∀ answer, Survives (next answer) (other answer)) :
      Survives (.ask r next) (.ask r other)
  | askBy {deadline : Nat} {r : Request} {next other : Option r.Answer → Play α}
      (h : ∀ answer, Survives (next answer) (other answer)) :
      Survives (.askBy deadline r next) (.askBy deadline r other)

theorem survives_refl (p : Play α) : p.Survives p := by
  induction p with
  | done a => exact .done a
  | crash => exact .crash _
  | ask r next ih => exact .ask ih
  | askBy deadline r next ih => exact .askBy ih

theorem survives_bind {p q : Play α} {next other : α → Play β} (h : p.Survives q)
    (goesOn : ∀ a, (next a).Survives (other a)) : (p >>= next).Survives (q >>= other) := by
  change (p.bind next).Survives (q.bind other)
  induction h with
  | done a => exact goesOn a
  | crash q => exact .crash _
  | ask h ih => exact .ask ih
  | askBy h ih => exact .askBy ih

theorem survives_within {p q : Play α} (deadline : Nat) (h : p.Survives q) :
    (p.within deadline).Survives (q.within deadline) := by
  induction h with
  | done a => exact .done _
  | crash q => exact .crash _
  | ask h ih =>
    simp only [within]
    refine .askBy fun answer => ?_
    cases answer with
    | none => exact .done _
    | some answer => exact ih answer
  | askBy h ih =>
    simp only [within]
    split
    · exact .askBy ih
    · refine .askBy fun answer => ?_
      cases answer with
      | none => exact .done _
      | some answer => exact ih (some answer)

theorem survives_congruence : Play.Congruence fun p q => p.Survives q :=
  .of_requests (fun a => .done a) (fun first goesOn => survives_bind first goesOn)
    (fun _ _ => survives_refl _) fun deadline _ _ h => survives_within deadline h

theorem Survives.perform {p q : Play α} (h : p.Survives q) (page : Page σ) (w : World σ)
    (ends : (p.perform page w).result ≠ none) : q.perform page w = p.perform page w := by
  induction h generalizing w with
  | done a => rfl
  | crash q => exact absurd rfl ends
  | ask h ih =>
    simp only [Play.perform] at ends ⊢
    rw [ih _ _ ends]
  | askBy h ih =>
    simp only [Play.perform] at ends ⊢
    split
    · rename_i late
      rw [if_pos late] at ends
      rw [ih _ _ ends]
    · rename_i late
      rw [if_neg late] at ends
      rw [ih _ _ ends]

def orElse : Play α → Play α → Play α
  | .done a, _ => .done a
  | .crash, q => q
  | .ask r next, q => .ask r fun answer => (next answer).orElse q
  | .askBy deadline r next, q => .askBy deadline r fun answer => (next answer).orElse q

theorem survives_orElse (p q : Play α) : p.Survives (p.orElse q) := by
  induction p with
  | done a => exact .done a
  | crash => exact .crash q
  | ask r next ih => exact .ask ih
  | askBy deadline r next ih => exact .askBy ih

end Play

def Attempt.tamed (trouble : Trouble) (a : Attempt Trouble α) : Attempt Trouble α :=
  ExceptT.mk (a.run.orElse (pure (.error trouble)))

def Registry.tamed (trouble : Trouble) (r : Registry) : Registry where
  actions := r.actions.map (Prod.map id fun h s => (h s).tamed trouble)
  validations := r.validations.map (Prod.map id fun h v scope => (h v scope).tamed trouble)

theorem Registry.survives_tamed (trouble : Trouble) (r : Registry) :
    r.Related (fun p q => p.Survives q) (r.tamed trouble) where
  action name := by
    have found : (r.tamed trouble).action? name =
        (r.action? name).map fun h s => (h s).tamed trouble := lookup_map _ name r.actions
    rw [found]
    cases r.action? name with
    | none => exact .none
    | some h => exact .some fun s => Play.survives_orElse _ _
  validation name := by
    have found : (r.tamed trouble).validation? name =
        (r.validation? name).map fun h v scope => (h v scope).tamed trouble :=
      lookup_map _ name r.validations
    rw [found]
    cases r.validation? name with
    | none => exact .none
    | some h => exact .some fun v scope => Play.survives_orElse _ _

section

variable {r : Runner} {registry : Registry}
  (handlers : r.registry.Related (fun p q => p.Survives q) registry)

include handlers

theorem TestCase.runAndClose_survives (c : TestCase) :
    (c.runAndClose r).Survives (c.runAndClose (r.withRegistry registry)) := by
  have run := Play.survives_congruence.runInBatch handlers (fun _ _ => Play.survives_refl _) c
  exact Play.survives_bind run fun _ => Play.survives_refl _

theorem Batch.runAllAndClose_survives (cases : List TestCase) :
    (Batch.runAllAndClose r cases).Survives
      (Batch.runAllAndClose (r.withRegistry registry) cases) := by
  have run := Play.survives_congruence.runInTurn handlers (fun _ _ => Play.survives_refl _) cases
  exact Play.survives_bind run fun _ => Play.survives_refl _

end

end Walkthrough
