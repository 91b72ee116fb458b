import Walkthrough.Proofs.Play.Ensures

/-!
Two plays that agree do the same until they part, if they ever do. One that stops where they part
only reads the clock from there on, so it makes no call that the other does not make as well.
-/
namespace Walkthrough

namespace Play

variable {σ ι α β : Type}

/-- The play asks for nothing but the time, and has a result with the property. -/
def Concludes (good : α → Prop) (p : Play α) : Prop :=
  p.Ensures (· = .clock) fun o => ∃ a, o = some a ∧ good a

theorem concludes_pure {good : α → Prop} {a : α} (h : good a) :
    (pure a : Play α).Concludes good := ⟨a, rfl, h⟩

theorem concludes_bind {good : α → Prop} {good' : β → Prop} {p : Play α} {next : α → Play β}
    (first : p.Concludes good) (goesOn : ∀ a, good a → (next a).Concludes good') :
    (p >>= next).Concludes good' := by
  refine ensures_bind first (fun a h => ?_) nofun
  obtain ⟨b, eq, holds⟩ := h
  obtain rfl := Option.some.inj eq
  exact goesOn a holds

theorem concludes_clock_bind {good : α → Prop} {next : Nat → Play α}
    (h : ∀ now, (next now).Concludes good) : (clock >>= next).Concludes good := ⟨rfl, h⟩

theorem Concludes.calls {good : α → Prop} {p : Play α} (h : p.Concludes good) (page : Page σ)
    (w : World σ) : (p.perform page w).calls = [] := by
  induction p generalizing w with
  | done a => rfl
  | crash => rfl
  | ask r next ih =>
    obtain ⟨rfl, rest⟩ := h
    exact ih w.now (rest w.now) w
  | askBy deadline r next ih =>
    obtain ⟨rfl, rest⟩ := h
    simp only [perform]
    split
    · exact ih _ (rest _) _
    · exact ih _ (rest _) _

/-- The first play and the second do the same, with a good result, or they part for some cause: then
the first may go on in any way to a result that tells of the cause, and the second stops. -/
inductive Agree (good : α → Prop) (goesOn stops : ι → α → Prop) : Play α → Play α → Prop where
  | done {a : α} (h : good a) : Agree good goesOn stops (.done a) (.done a)
  | crash : Agree good goesOn stops .crash .crash
  | ask {r : Request} {next other : r.Answer → Play α}
      (h : ∀ answer, Agree good goesOn stops (next answer) (other answer)) :
      Agree good goesOn stops (.ask r next) (.ask r other)
  | askBy {deadline : Nat} {r : Request} {next other : Option r.Answer → Play α}
      (h : ∀ answer, Agree good goesOn stops (next answer) (other answer)) :
      Agree good goesOn stops (.askBy deadline r next) (.askBy deadline r other)
  | part (cause : ι) {p q : Play α} (first : p.Yields (goesOn cause))
      (second : q.Concludes (stops cause)) : Agree good goesOn stops p q

variable {good : α → Prop} {goesOn stops : ι → α → Prop}
  {good' : β → Prop} {goesOn' stops' : ι → β → Prop}

theorem agree_pure {a : α} (h : good a) :
    Agree good goesOn stops (pure a) (pure a) := .done h

theorem Agree.mono {κ : Type} {good₁ : α → Prop} {goesOn₁ stops₁ : κ → α → Prop} {p q : Play α}
    (h : Agree good goesOn stops p q) (weaker : ∀ a, good a → good₁ a) (retell : ι → κ)
    (first : ∀ cause a, goesOn cause a → goesOn₁ (retell cause) a)
    (second : ∀ cause a, stops cause a → stops₁ (retell cause) a) :
    Agree good₁ goesOn₁ stops₁ p q := by
  induction h with
  | done holds => exact .done (weaker _ holds)
  | crash => exact .crash
  | ask h ih => exact .ask ih
  | askBy h ih => exact .askBy ih
  | part cause tells ends =>
    refine .part (retell cause) (tells.mono (first cause)) (ends.mono (fun _ => id) ?_)
    rintro _ ⟨a, rfl, holds⟩
    exact ⟨a, rfl, second cause a holds⟩

theorem agree_then (p : Play α) {next other : α → Play β}
    (h : ∀ a, Agree good' goesOn' stops' (next a) (other a)) :
    Agree good' goesOn' stops' (p >>= next) (p >>= other) := by
  change Agree good' goesOn' stops' (p.bind next) (p.bind other)
  induction p with
  | done a => exact h a
  | crash => exact .crash
  | ask r rest ih => exact .ask ih
  | askBy deadline r rest ih => exact .askBy ih

theorem agree_bind {p q : Play α} {next other : α → Play β} (h : Agree good goesOn stops p q)
    (same : ∀ a, good a → Agree good' goesOn' stops' (next a) (other a))
    (first : ∀ cause a, goesOn cause a → (next a).Yields (goesOn' cause))
    (second : ∀ cause a, stops cause a → (other a).Concludes (stops' cause)) :
    Agree good' goesOn' stops' (p >>= next) (q >>= other) := by
  change Agree good' goesOn' stops' (p.bind next) (q.bind other)
  induction h with
  | done holds => exact same _ holds
  | crash => exact .crash
  | ask h ih => exact .ask ih
  | askBy h ih => exact .askBy ih
  | part cause tells ends =>
    exact .part cause (yields_bind tells (first cause)) (concludes_bind ends (second cause))

end Play

/-- Two courses are the same, with a good result, or for some cause the second stopped, and its
calls are those with which the first begins. -/
def Course.Agree {σ ι α : Type} (good : α → Prop) (goesOn stops : ι → α → Prop)
    (c d : Course σ α) : Prop :=
  (c = d ∧ ∀ a, d.result = some a → good a) ∨
    ∃ cause a, d.result = some a ∧ stops cause a ∧ d.calls <+: c.calls ∧
      ∀ b, c.result = some b → goesOn cause b

namespace Play

variable {σ ι α : Type} {good : α → Prop} {goesOn stops : ι → α → Prop}

theorem agree_after_calls {c d : Course σ α} (made : List TimedCall)
    (h : Course.Agree good goesOn stops c d) :
    Course.Agree good goesOn stops { c with calls := made ++ c.calls }
      { d with calls := made ++ d.calls } := by
  rcases h with ⟨rfl, holds⟩ | ⟨cause, a, ended, stopped, calls, told⟩
  · exact .inl ⟨rfl, holds⟩
  · exact .inr ⟨cause, a, ended, stopped, (List.prefix_append_right_inj made).mpr calls, told⟩

theorem Agree.perform {p q : Play α} (h : Agree good goesOn stops p q) (page : Page σ)
    (w : World σ) :
    Course.Agree good goesOn stops (p.perform page w) (q.perform page w) := by
  induction h generalizing w with
  | done holds =>
    refine .inl ⟨rfl, ?_⟩
    rintro _ ⟨⟩
    exact holds
  | crash => exact .inl ⟨rfl, nofun⟩
  | ask h ih => exact agree_after_calls _ (ih _ _)
  | askBy h ih =>
    simp only [Play.perform]
    split
    · exact agree_after_calls _ (ih _ _)
    · exact agree_after_calls _ (ih _ _)
  | part cause tells ends =>
    obtain ⟨a, ended, stopped⟩ := ends.result page w
    refine .inr ⟨cause, a, ended, stopped, ?_, fun b eq => tells.result page w eq⟩
    rw [ends.calls page w]
    exact List.nil_prefix

end Play

end Walkthrough
