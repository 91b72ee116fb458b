import Walkthrough.Proofs.Play.Later

/-!
Plays in worlds that are alike but for the time and for identifiers. Whatever two such plays come
to, they leave worlds that are alike again.
-/
namespace Walkthrough

variable {σ α β γ δ : Type}

structure World.Alike (w v : World σ) : Prop where
  page : w.page = v.page
  context : w.context = v.context

namespace World.Alike

theorem refl (w : World σ) : w.Alike w := ⟨rfl, rfl⟩

theorem symm {w v : World σ} (h : w.Alike v) : v.Alike w := ⟨h.page.symm, h.context.symm⟩

theorem trans {w v u : World σ} (first : w.Alike v) (second : v.Alike u) : w.Alike u :=
  ⟨first.page.trans second.page, first.context.trans second.context⟩

end World.Alike

structure Course.Alike (same : α → β → Prop) (c : Course σ α) (d : Course σ β) : Prop where
  result : Option.Rel same c.result d.result
  world : c.world.Alike d.world

theorem Course.Alike.symm {c d : Course σ α} (h : Course.Alike Eq c d) : Course.Alike Eq d c := by
  refine ⟨?_, h.world.symm⟩
  have results := h.result
  generalize c.result = x at results ⊢
  generalize d.result = y at results ⊢
  cases results with
  | none => exact .none
  | some eq => exact .some eq.symm

namespace Play

def Alike (page : Page σ) (same : α → β → Prop) (p : Play α) (q : Play β) : Prop :=
  ∀ w v, World.Alike w v → Course.Alike same (p.perform page w) (q.perform page v)

variable {page : Page σ} {same : α → β → Prop} {same' : γ → δ → Prop}

theorem alike_pure {a : α} {b : β} (h : same a b) :
    Alike page same (pure a : Play α) (pure b : Play β) :=
  fun _ _ worlds => ⟨.some h, worlds⟩

theorem alike_bind {p : Play α} {q : Play β} {next : α → Play γ} {other : β → Play δ}
    (first : Alike page same p q) (goesOn : ∀ a b, same a b → Alike page same' (next a) (other b)) :
    Alike page same' (p >>= next) (q >>= other) := by
  intro w v worlds
  obtain ⟨results, after⟩ := first w v worlds
  rw [perform_bind, perform_bind]
  unfold Course.andThen
  generalize (p.perform page w).result = x at results ⊢
  generalize (q.perform page v).result = y at results ⊢
  cases results with
  | none => exact ⟨.none, after⟩
  | some related =>
    obtain ⟨results', after'⟩ := goesOn _ _ related _ _ after
    exact ⟨results', after'⟩

theorem alike_clock_bind {next : Nat → Play α} {other : Nat → Play β}
    (h : ∀ now now', Alike page same (next now) (other now')) :
    Alike page same (clock >>= next) (clock >>= other) :=
  fun w v worlds => h w.now v.now w v worlds

theorem alike_of_later {p : Play α} (timeless : ∀ k, p.Later k Eq p) (page : Page σ) :
    Alike page Eq p p := by
  have earlier {w v : World σ} (worlds : w.Alike v) (le : w.now ≤ v.now) :
      Course.Alike Eq (p.perform page w) (p.perform page v) := by
    have shift : w.Later (v.now - w.now) Eq v :=
      ⟨worlds.page, (Nat.add_sub_cancel' le).symm, worlds.context.symm⟩
    obtain ⟨results, -, after⟩ := (timeless _).perform page.eq_bisimulation shift
    exact ⟨results, after.page, after.context.symm⟩
  intro w v worlds
  rcases Nat.le_total w.now v.now with le | le
  · exact earlier worlds le
  · exact (earlier worlds.symm le).symm

end Play

end Walkthrough
