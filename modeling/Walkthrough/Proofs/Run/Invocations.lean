import Walkthrough.Proofs.Check.Requests
import Walkthrough.Proofs.Run.Performance
import Walkthrough.Proofs.Run.TimeLimit

/-!
The handlers that a run calls, in order, each with the world in which it is called. They are all
that a run has of its registry, and between them the runner leaves the context alone.
-/
namespace Walkthrough

inductive Called where
  | action (s : Step) (handler : ActionHandler)
  | validation (v : Validation) (scope : Scope) (handler : ValidationHandler)

structure Invocation (σ : Type) where
  called : Called
  begun : World σ

/-- What is called in a performance that begins in a world. -/
abbrev Invocations (σ : Type) := World σ → List (Invocation σ)

variable {σ α β : Type}

namespace Called

/-- What the handler does, up to the time limit when it acts. -/
def play (r : Runner) : Called → Play Unit
  | .action s handler => do
    let _ ← (handler s).run.limited r.actionLimit
  | .validation v scope handler => do
    let _ ← (handler v scope).run

/-- Another registry has a handler that does the same here. -/
def AlsoIn (other : Registry) : Called → Prop
  | .action s handler =>
    ∃ same, other.action? (s.customName.getD "") = some same ∧ same s = handler s
  | .validation v scope handler =>
    ∃ same, other.validation? (v.customName.getD "") = some same ∧
      same v scope = handler v scope

def invoke (called : Option Called) : Invocations σ := fun w => called.toList.map (⟨·, w⟩)

@[simp] theorem invoke_none (w : World σ) : invoke none w = [] := rfl

@[simp] theorem invoke_some (called : Called) (w : World σ) :
    invoke (some called) w = [⟨called, w⟩] := rfl

end Called

def Invocation.course (i : Invocation σ) (r : Runner) (page : Page σ) : Course σ Unit :=
  (i.called.play r).perform page i.begun

/-- What a play calls and then, once it has a result, what is called after it. -/
def Play.thenInvokes (page : Page σ) (p : Play α) (first : Invocations σ)
    (later : α → Invocations σ) : Invocations σ := fun w =>
  first w ++ match (p.perform page w).result with
    | some a => later a (p.perform page w).world
    | none => []

theorem Play.thenInvokes_none (page : Page σ) (p : Play α) (first : Invocations σ) :
    (p.thenInvokes page first fun _ => Called.invoke none) = first := by
  funext w
  simp only [thenInvokes]
  split <;> simp

section

variable (r : Runner) (page : Page σ)

def Validation.called? (v : Validation) (r : Registry) (scope : Scope) : Option Called :=
  if v.kind = .custom then (r.validation? (v.customName.getD "")).map (.validation v scope)
  else none

def Validation.invocations (v : Validation) (inherited : Option Target) : Invocations σ :=
  match v.selection.target? with
  | .error _ => Called.invoke none
  | .ok own => Called.invoke (v.called? r.registry (v.scopeIn r own inherited))

namespace Step

def called? (s : Step) (r : Registry) : Option Called :=
  if s.action = .custom then (r.action? (s.customName.getD "")).map (.action s) else none

def checkInvocations (target : Option Target) : List Validation → Invocations σ
  | [] => Called.invoke none
  | v :: rest => (v.evaluate r target).run.thenInvokes page (v.invocations r target) fun
    | .error _ => Called.invoke none
    | .ok _ => checkInvocations target rest

def roundInvocations (s : Step) (target : Option Target) : Invocations σ :=
  (s.act r target).run.thenInvokes page (Called.invoke (s.called? r.registry)) fun
    | .error _ => Called.invoke none
    | .ok () => s.pauseAfter.run.thenInvokes page (Called.invoke none) fun
      | .error _ => Called.invoke none
      | .ok () => checkInvocations r page target s.validations

def roundsInvocations (s : Step) (base : Target) (place : Nat) : Nat → Invocations σ
  | 0 => Called.invoke none
  | count + 1 => (s.round r (some (base.element place))).thenInvokes page
      (s.roundInvocations r page (some (base.element place))) fun this =>
    match this.fault with
    | some _ => Called.invoke none
    | none => roundsInvocations s base (place + 1) count

def invocations (s : Step) : Invocations σ :=
  match s.selection.target? with
  | .error _ => Called.invoke none
  | .ok none => s.roundInvocations r page none
  | .ok (some base) =>
    if s.iterate then (s.call (.count base)).run.thenInvokes page (Called.invoke none) fun
      | .error _ => Called.invoke none
      | .ok count => s.roundsInvocations r page base 0 count
    else s.roundInvocations r page (some base)

def runInvocations : List Step → Invocations σ
  | [] => Called.invoke none
  | s :: rest => (s.drive r).thenInvokes page (s.invocations r page) fun course =>
    if course.fault.isSome then Called.invoke none else runInvocations rest

end Step

def TestCase.invocations (c : TestCase) : Invocations σ := fun w =>
  Step.runInvocations r page c.steps (w.withIds (w.ids + 1))

end

/-- A context is handed from one handler to the next: each finds the one that the last left. -/
def Handed (r : Runner) (page : Page σ) (start finish : Context) : List (Invocation σ) → Prop
  | [] => finish = start
  | i :: rest => i.begun.context = start ∧ Handed r page (i.course r page).world.context finish rest

theorem Handed.append {r : Runner} {page : Page σ} {start middle finish : Context}
    {is js : List (Invocation σ)} (first : Handed r page start middle is)
    (later : Handed r page middle finish js) : Handed r page start finish (is ++ js) := by
  induction is generalizing start with
  | nil =>
    obtain rfl : middle = start := first
    exact later
  | cons i rest ih => exact ⟨first.1, ih first.2⟩

/-- The other registry knows no names that the registry does not. -/
structure Registry.NamesIn (other r : Registry) : Prop where
  action : ∀ name, r.action? name = none → other.action? name = none
  validation : ∀ name, r.validation? name = none → other.validation? name = none

/-- A play calls these handlers and, but for them, keeps the context, makes calls and never crashes.
Another play, made with another registry, is the same wherever these handlers are in that one. -/
structure Play.Invokes (r : Runner) (page : Page σ) (other : Registry) (who : Called → Prop)
    (p q : Play α) (handlers : Invocations σ) : Prop where
  who : ∀ w, ∀ i ∈ handlers w, who i.called
  handed : ∀ w, Handed r page w.context (p.perform page w).world.context (handlers w)
  calls : ∀ w, ((handlers w).flatMap fun i => (i.course r page).calls).Sublist
    (p.perform page w).calls
  crashed : ∀ w, (p.perform page w).result = none ↔
    ∃ i ∈ handlers w, (i.course r page).result = none
  only : ∀ w, (∀ i ∈ handlers w, i.called.AlsoIn other) → q.perform page w = p.perform page w

theorem Play.context_of_confined {crash : Prop} {p : Play α}
    (h : p.Confined (fun q => ∀ c, q ≠ .keep c) crash) (page : Page σ) (w : World σ) :
    (p.perform page w).world.context = w.context := by
  have answered (w : World σ) {q : Request} (other : ∀ c, q ≠ .keep c) :
      (w.answer page q).2.context = w.context := by
    cases q with
    | keep c => exact absurd rfl (other c)
    | _ => rfl
  have givenUp (w : World σ) (deadline : Nat) (q : Request) :
      (w.giveUp page deadline q).context = w.context := by cases q <;> rfl
  induction p generalizing w with
  | done a => rfl
  | crash => rfl
  | ask q next ih => exact (ih _ (h.2 _) _).trans (answered w h.1)
  | askBy deadline q next ih =>
    simp only [perform]
    split
    · exact (ih _ (h.2 _) _).trans (answered w h.1)
    · exact (ih _ (h.2 _) _).trans (givenUp w deadline q)

theorem Request.IsOwn.keepsNothing {q : Request} (own : q.IsOwn) : ∀ c, q ≠ .keep c := by
  rintro c rfl
  exact own

namespace Play

variable {r : Runner} {page : Page σ} {other : Registry} {who : Called → Prop}

theorem invokes_own {p : Play α} (own : p.Confined Request.IsOwn False) :
    Invokes r page other who p p (Called.invoke none) where
  who w := by simp
  handed w :=
    context_of_confined (own.mono (fun _ => Request.IsOwn.keepsNothing) fun _ => id) page w
  calls w := by simp
  crashed w := by
    have ends : (p.perform page w).result ≠ none := fun none => own.result page w none
    simp [ends]
  only _ _ := rfl

theorem invokes_pure (a : α) :
    Invokes r page other who (pure a) (pure a) (Called.invoke none) :=
  invokes_own (confined_pure a)

theorem invokes_called {called : Called} {p q : Play α} (mine : who called)
    (same : called.play r = p >>= fun _ => pure ())
    (alike : called.AlsoIn other → q = p) :
    Invokes r page other who p q (Called.invoke (some called)) where
  who w := by simpa using mine
  handed w := by
    simp only [Called.invoke_some, Handed, Invocation.course, same, perform_bind_pure, and_self]
  calls w := by
    simp only [Called.invoke_some, List.flatMap_singleton, Invocation.course, same,
      perform_bind_pure, List.Sublist.refl]
  crashed w := by
    simp only [Called.invoke_some, List.mem_singleton, exists_eq_left, Invocation.course, same,
      perform_bind_pure, Option.map_eq_none_iff]
  only w both := by rw [alike (both ⟨called, w⟩ (by simp))]

theorem Invokes.map {p q : Play α} {handlers : Invocations σ}
    (h : Invokes r page other who p q handlers) (f : α → β) :
    Invokes r page other who (p >>= fun a => pure (f a)) (q >>= fun a => pure (f a)) handlers where
  who := h.who
  handed w := by
    rw [perform_bind_pure]
    exact h.handed w
  calls w := by
    rw [perform_bind_pure]
    exact h.calls w
  crashed w := by
    rw [perform_bind_pure, ← h.crashed w]
    exact Option.map_eq_none_iff
  only w both := by
    rw [perform_bind_pure, perform_bind_pure, h.only w both]

theorem Invokes.bind {p q : Play α} {next along : α → Play β} {first : Invocations σ}
    {later : α → Invocations σ} (h : Invokes r page other who p q first)
    (goesOn : ∀ a, Invokes r page other who (next a) (along a) (later a)) :
    Invokes r page other who (p >>= next) (q >>= along) (p.thenInvokes page first later) := by
  constructor
  all_goals intro w
  all_goals simp only [perform_bind, Course.andThen, thenInvokes]
  case who =>
    cases ended : (p.perform page w).result with
    | none => simpa using h.who w
    | some a => exact List.forall_mem_append.mpr ⟨h.who w, (goesOn a).who _⟩
  case handed =>
    cases ended : (p.perform page w).result with
    | none => simpa using h.handed w
    | some a => exact (h.handed w).append ((goesOn a).handed _)
  case calls =>
    cases ended : (p.perform page w).result with
    | none => simpa using h.calls w
    | some a =>
      simp only [List.flatMap_append]
      exact (h.calls w).append ((goesOn a).calls _)
  case crashed =>
    cases ended : (p.perform page w).result with
    | none => simpa [ended] using h.crashed w
    | some a =>
      have first : ¬ ∃ i ∈ first w, (i.course r page).result = none := by
        rw [← h.crashed w, ended]
        exact Option.some_ne_none a
      simp only [List.mem_append, or_and_right, exists_or, first, false_or]
      exact (goesOn a).crashed _
  case only =>
    intro both
    rw [h.only w fun i member => both i (List.mem_append_left _ member)]
    cases ended : (p.perform page w).result with
    | none => rfl
    | some a =>
      simp only [ended] at both
      simp only [(goesOn a).only _ fun i member => both i (List.mem_append_right _ member)]

theorem invokes_clock_bind {next along : Nat → Play α} {handlers : Invocations σ}
    (h : ∀ now, Invokes r page other who (next now) (along now) handlers) :
    Invokes r page other who (clock >>= next) (clock >>= along) handlers where
  who w := (h w.now).who w
  handed w := (h w.now).handed w
  calls w := (h w.now).calls w
  crashed w := (h w.now).crashed w
  only w := (h w.now).only w

theorem invokes_newId_bind {next along : RunId → Play α} {handlers : Invocations σ}
    (h : ∀ id, Invokes r page other who (next id) (along id) handlers) :
    Invokes r page other who (newId >>= next) (newId >>= along)
      fun w => handlers (w.withIds (w.ids + 1)) where
  who w := (h (.ofRandom w.ids)).who (w.withIds (w.ids + 1))
  handed w := (h (.ofRandom w.ids)).handed (w.withIds (w.ids + 1))
  calls w := (h (.ofRandom w.ids)).calls (w.withIds (w.ids + 1))
  crashed w := (h (.ofRandom w.ids)).crashed (w.withIds (w.ids + 1))
  only w := (h (.ofRandom w.ids)).only (w.withIds (w.ids + 1))

end Play

end Walkthrough
