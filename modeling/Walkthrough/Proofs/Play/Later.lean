import Walkthrough.Check.Expect
import Walkthrough.Proofs.Play.Laws

/-!
The same play at a later time. Two plays are alike, up to some time between them, when they ask the
same of the world, set their deadlines that much apart, and go on alike as long as their answers
differ in nothing but that time and in identifiers. Performed that much apart, on pages that behave
alike, they make the same calls.
-/
namespace Walkthrough

variable {σ : Type}

/-- Answers to one request that is made twice, the second time so much later. -/
def Request.AnswersLater (k : Nat) : (r : Request) → r.Answer → r.Answer → Prop
  | .clock, a, b => b = a + k
  | .newId, _, _ => True
  | .call _, a, b => a = b
  | .sleep _, a, b => a = b
  | .context, a, b => a = b
  | .keep _, a, b => a = b

namespace Play

variable {α β γ δ : Type} {k : Nat}

/-- The second play does later what the first does, and their results are as they should be. -/
inductive Later (k : Nat) (same : α → β → Prop) : Play α → Play β → Prop where
  | done {a : α} {b : β} (h : same a b) : Later k same (.done a) (.done b)
  | crash : Later k same .crash .crash
  | ask {r : Request} {next : r.Answer → Play α} {other : r.Answer → Play β}
      (h : ∀ a b, r.AnswersLater k a b → Later k same (next a) (other b)) :
      Later k same (.ask r next) (.ask r other)
  | askBy {deadline : Nat} {r : Request} {next : Option r.Answer → Play α}
      {other : Option r.Answer → Play β} (none : Later k same (next none) (other none))
      (some : ∀ a b, r.AnswersLater k a b → Later k same (next (some a)) (other (some b))) :
      Later k same (.askBy deadline r next) (.askBy (deadline + k) r other)

variable {same : α → β → Prop} {same' : γ → δ → Prop}

theorem later_bind {p : Play α} {q : Play β} {next : α → Play γ} {other : β → Play δ}
    (h : p.Later k same q) (goesOn : ∀ a b, same a b → (next a).Later k same' (other b)) :
    (p >>= next).Later k same' (q >>= other) := by
  change (p.bind next).Later k same' (q.bind other)
  induction h with
  | done holds => exact goesOn _ _ holds
  | crash => exact .crash
  | ask h ih => exact .ask ih
  | askBy none some ihNone ihSome => exact .askBy ihNone ihSome

theorem later_pure {a : α} {b : β} (h : same a b) :
    (pure a : Play α).Later k same (pure b : Play β) := .done h

theorem later_clock_bind {next : Nat → Play α} {other : Nat → Play β}
    (h : ∀ now, (next now).Later k same (other (now + k))) :
    (clock >>= next).Later k same (clock >>= other) :=
  .ask fun now _ eq => eq ▸ h now

theorem later_newId_bind {next : RunId → Play α} {other : RunId → Play β}
    (h : ∀ id id', (next id).Later k same (other id')) :
    (newId >>= next).Later k same (newId >>= other) :=
  .ask fun id id' _ => h id id'

theorem later_within {p q : Play α} (deadline : Nat) (h : p.Later k Eq q) :
    (p.within deadline).Later k Eq (q.within (deadline + k)) := by
  induction h with
  | done eq => exact eq ▸ .done rfl
  | crash => exact .crash
  | ask h ih =>
    simp only [within]
    refine .askBy (.done rfl) fun a b answers => ?_
    exact ih a b answers
  | @askBy earlier r next other none some ihNone ihSome =>
    simp only [within, Nat.add_le_add_iff_right]
    split
    · exact .askBy ihNone ihSome
    · exact .askBy (.done rfl) ihSome

theorem later_limited {p q : Play α} (limit : Nat) (h : p.Later k Eq q) :
    (p.limited limit).Later k Eq (q.limited limit) :=
  later_clock_bind fun now => by
    have shift : now + k + limit = now + limit + k := by omega
    exact shift ▸ later_within (now + limit) h

end Play

namespace Expect

variable {k : Nat} {probe other : Play (Except PageFault Probe)}

theorem later_waitOr (deadline interval : Nat) (observed : String)
    {again once : Play (Except String Unit)} (h : again.Later k Eq once) :
    (waitOr deadline interval observed again).Later k Eq
      (waitOr (deadline + k) interval observed once) := by
  refine Play.later_clock_bind fun now => ?_
  simp only [Nat.add_le_add_iff_right, Nat.add_sub_add_right]
  split
  · exact Play.later_pure rfl
  · exact .ask fun _ _ _ => h

theorem later_probeUntil (deadline interval : Nat) (h : probe.Later k Eq other) (rounds : Nat) :
    (probeUntil deadline interval probe rounds).Later k Eq
      (probeUntil (deadline + k) interval other rounds) := by
  induction rounds with
  | zero =>
    refine Play.later_bind h ?_
    rintro reading _ rfl
    split <;> exact Play.later_pure rfl
  | succ rounds ih =>
    refine Play.later_bind h ?_
    rintro reading _ rfl
    split
    · exact Play.later_pure rfl
    · exact later_waitOr deadline interval _ ih

theorem later_poll (e : Expect) (h : probe.Later k Eq other) :
    (e.poll probe).Later k Eq (e.poll other) :=
  Play.later_clock_bind fun now => by
    have shift : now + k + e.timeout = now + e.timeout + k := by omega
    exact shift ▸ later_probeUntil (now + e.timeout) e.interval h e.rounds

end Expect

structure Page.Bisimulation (page : Page σ) (R : σ → σ → Prop) : Prop where
  delay : ∀ c s t, R s t → (page.serve c s).delay = (page.serve c t).delay
  answer : ∀ c s t, R s t → (page.serve c s).answer = (page.serve c t).answer
  after : ∀ c s t, R s t → R (page.serve c s).after (page.serve c t).after
  abandoned : ∀ c s t, R s t → R (page.serve c s).abandoned (page.serve c t).abandoned

theorem Page.eq_bisimulation (page : Page σ) : page.Bisimulation Eq where
  delay c _ _ eq := by rw [eq]
  answer c _ _ eq := by rw [eq]
  after c _ _ eq := by rw [eq]
  abandoned c _ _ eq := by rw [eq]

def TimedCall.later (k : Nat) (c : TimedCall) : TimedCall := { c with time := c.time + k }

/-- The second world is the first one later, with another page and other identifiers. -/
structure World.Later (k : Nat) (R : σ → σ → Prop) (w v : World σ) : Prop where
  page : R w.page v.page
  now : v.now = w.now + k
  context : v.context = w.context

structure Course.Later {α β : Type} (k : Nat) (R : σ → σ → Prop) (same : α → β → Prop)
    (c : Course σ α) (d : Course σ β) : Prop where
  result : Option.Rel same c.result d.result
  calls : d.calls = c.calls.map (·.later k)
  world : c.world.Later k R d.world

section

variable {k : Nat} {page : Page σ} {R : σ → σ → Prop} (alike : page.Bisimulation R)
  {w v : World σ} (h : w.Later k R v)

include alike h

theorem World.later_answer (r : Request) :
    r.AnswersLater k (w.answer page r).1 (v.answer page r).1 ∧
      (w.answer page r).2.Later k R (v.answer page r).2 := by
  cases r with
  | call c =>
    refine ⟨alike.answer c _ _ h.page, alike.after c _ _ h.page, ?_, h.context⟩
    have delay := alike.delay c _ _ h.page
    have now := h.now
    simp only [answer]
    omega
  | sleep ms =>
    have now := h.now
    refine ⟨rfl, h.page, ?_, h.context⟩
    simp only [answer]
    omega
  | clock => exact ⟨h.now, h⟩
  | context => exact ⟨h.context.symm, h⟩
  | keep c => exact ⟨rfl, h.page, h.now, rfl⟩
  | newId => exact ⟨trivial, h.page, h.now, h.context⟩

theorem World.later_delay (r : Request) : v.delay page r = w.delay page r := by
  cases r with
  | call c => exact (alike.delay c _ _ h.page).symm
  | _ => rfl

theorem World.later_giveUp (deadline : Nat) (r : Request) :
    (w.giveUp page deadline r).Later k R (v.giveUp page (deadline + k) r) := by
  have now : max v.now (deadline + k) = max w.now deadline + k := by
    rw [h.now]
    omega
  cases r with
  | call c => exact ⟨alike.abandoned c _ _ h.page, now, h.context⟩
  | _ => exact ⟨h.page, now, h.context⟩

omit alike in
theorem World.later_callOf (r : Request) : v.callOf r = (w.callOf r).map (·.later k) := by
  cases r with
  | call c => simp [callOf, TimedCall.later, h.now]
  | _ => rfl

omit alike h in
theorem Course.Later.after_calls {α β : Type} {same : α → β → Prop} {c : Course σ α}
    {d : Course σ β} {made made' : List TimedCall} (first : made' = made.map (·.later k))
    (rest : c.Later k R same d) :
    Course.Later k R same { c with calls := made ++ c.calls }
      { d with calls := made' ++ d.calls } :=
  ⟨rest.result, by rw [first, rest.calls, List.map_append], rest.world⟩

theorem Play.Later.perform {α β : Type} {same : α → β → Prop} {p : Play α} {q : Play β}
    (plays : p.Later k same q) : (p.perform page w).Later k R same (q.perform page v) := by
  induction plays generalizing w v with
  | done holds => exact ⟨.some holds, rfl, h⟩
  | crash => exact ⟨.none, rfl, h⟩
  | @ask r next other _ ih =>
    obtain ⟨answers, worlds⟩ := World.later_answer alike h r
    exact (ih _ _ answers worlds).after_calls (World.later_callOf h r)
  | @askBy deadline r next other none some ihNone ihSome =>
    have late : v.now + v.delay page r ≤ deadline + k ↔ w.now + w.delay page r ≤ deadline := by
      rw [World.later_delay alike h, h.now]
      omega
    simp only [Play.perform, late]
    split
    · obtain ⟨answers, worlds⟩ := World.later_answer alike h r
      exact (ihSome _ _ answers worlds).after_calls (World.later_callOf h r)
    · exact (ihNone (World.later_giveUp alike h deadline r)).after_calls (World.later_callOf h r)

end

end Walkthrough
