import Walkthrough.Proofs.Handler.Builtin
import Walkthrough.Proofs.Run.Invocations

/-!
The context of a run is in the keeping of its handlers. The runner hands it from one to the next and
has no part in it itself, so it ends as the last handler left it, or as it was when none is called.
-/
namespace Walkthrough

variable {σ α β : Type}

theorem Play.within_bind_pure (deadline : Nat) (p : Play α) (f : α → β) :
    (p >>= fun a => pure (f a)).within deadline =
      p.within deadline >>= fun x => pure (x.map f) := by
  change (p.bind fun a => .done (f a)).within deadline =
    (p.within deadline).bind fun x => .done (x.map f)
  induction p with
  | done a => rfl
  | crash => rfl
  | ask r next ih =>
    simp only [bind, within]
    refine congrArg (Play.askBy deadline r) (funext fun answer => ?_)
    cases answer with
    | none => rfl
    | some answer => exact ih answer
  | askBy earlier r next ih =>
    simp only [bind, within]
    split
    · exact congrArg (Play.askBy earlier r) (funext ih)
    · refine congrArg (Play.askBy deadline r) (funext fun answer => ?_)
      cases answer with
      | none => rfl
      | some answer => exact ih (some answer)

theorem Play.limited_bind_pure (limit : Nat) (p : Play α) (f : α → β) :
    (p >>= fun a => pure (f a)).limited limit = p.limited limit >>= fun x => pure (x.map f) := by
  simp only [limited, within_bind_pure]
  rfl

namespace Step

variable {s : Step} {r : Runner} {handler : ActionHandler}

theorem called?_eq_some_iff {called : Called} : s.called? r.registry = some called ↔
    s.action = .custom ∧ ∃ handler, r.registry.action? (s.customName.getD "") = some handler ∧
      called = .action s handler := by
  simp only [called?, Option.ite_none_right_eq_some, Option.map_eq_some_iff, eq_comm (b := called)]

def judge (s : Step) (limit : Nat) (x : Option (Except Trouble Unit)) : Except StepFault Unit :=
  s.settled limit <| x.map fun ended => ended.mapError fun trouble =>
    .action ("custom:" ++ s.customName.getD "") (.handler trouble)

theorem act_custom (custom : s.action = .custom)
    (found : r.registry.action? (s.customName.getD "") = some handler) (target : Option Target) :
    (s.act r target).run = (handler s).run.limited r.actionLimit >>= fun x =>
      pure (s.judge r.actionLimit x) := by
  have handles : (s.callHandler r.registry).run = (handler s).run >>= fun x =>
      pure (x.mapError fun trouble =>
        .action ("custom:" ++ s.customName.getD "") (.handler trouble)) := by
    simp only [callHandler, found, ExceptT.run_bind, Attempt.run_result, bind_assoc, pure_bind]
    refine bind_congr fun x => ?_
    rcases x with trouble | _ <;> rfl
  have admitted : s.lacksTarget r.settings target = false := by
    simp [lacksTarget, custom, Action.needsTarget]
  have acts : s.act r target = s.limited r.actionLimit (s.callHandler r.registry) := by
    simp only [act, unlimited, custom, admitted, Bool.false_eq_true, if_false]
    rfl
  rw [acts, limited_run, handles, Play.limited_bind_pure]
  simp only [bind_assoc, pure_bind]
  rfl

theorem act_uncalled (none : s.called? r.registry = none) (target : Option Target) :
    s.act r target = s.act (r.withRegistry .empty) target := by
  by_cases custom : s.action = .custom
  · have unknown : r.registry.action? (s.customName.getD "") = .none := by
      simpa [called?, custom] using none
    simp only [act, unlimited, custom, callHandler, unknown]
    rfl
  · have same : s.unlimited r target = s.unlimited (r.withRegistry .empty) target := by
      unfold unlimited
      split <;> first | rfl | exact absurd ‹_› custom
    simp only [act, same]
    rfl

end Step

namespace Validation

variable {v : Validation} {r : Runner} {handler : ValidationHandler} {scope : Scope}

theorem called?_eq_some_iff {called : Called} : v.called? r.registry scope = some called ↔
    v.kind = .custom ∧ ∃ handler, r.registry.validation? (v.customName.getD "") = some handler ∧
      called = .validation v scope handler := by
  simp only [called?, Option.ite_none_right_eq_some, Option.map_eq_some_iff, eq_comm (b := called)]

theorem check_custom (custom : v.kind = .custom)
    (found : r.registry.validation? (v.customName.getD "") = some handler) (scope : Scope) :
    (v.check r scope).run = (handler v scope).run >>= fun x => pure (x.mapError fun trouble =>
      .assertion ("custom:" ++ v.customName.getD "") (.handler trouble)) := by
  rw [← callHandler_run found]
  simp only [check, custom]

theorem check_uncalled (none : v.called? r.registry scope = none) :
    v.check r scope = v.check (r.withRegistry .empty) scope := by
  by_cases custom : v.kind = .custom
  · have unknown : r.registry.validation? (v.customName.getD "") = .none := by
      simpa [called?, custom] using none
    simp only [check, custom, callHandler, unknown]
    rfl
  · unfold check
    split <;> first | rfl | exact absurd ‹_› custom

end Validation

theorem Registry.empty_related {R : {α : Type} → Play α → Play α → Prop} :
    Registry.empty.Related R .empty where
  action _ := .none
  validation _ := .none

/-- A handler that the registry has under the name of a custom step or validation of the list. -/
inductive Called.Of (steps : List Step) (r : Registry) : Called → Prop where
  | action {s : Step} {handler : ActionHandler} (member : s ∈ steps) (custom : s.action = .custom)
      (found : r.action? (s.customName.getD "") = some handler) : Of steps r (.action s handler)
  | validation {s : Step} {v : Validation} {scope : Scope} {handler : ValidationHandler}
      (member : s ∈ steps) (ofStep : v ∈ s.validations) (custom : v.kind = .custom)
      (found : r.validation? (v.customName.getD "") = some handler) :
      Of steps r (.validation v scope handler)

section

variable {r : Runner} {page : Page σ} {other : Registry} {steps : List Step}
  (names : other.NamesIn r.registry)

theorem Play.own_congruence : Play.Congruence fun p _ => p.Confined Request.IsOwn False :=
  Play.confined_congruence fun _ own => own

include names

theorem Step.act_invokes {s : Step} (member : s ∈ steps) (target : Option Target) :
    Play.Invokes r page other (Called.Of steps r.registry) (s.act r target).run
      (s.act (r.withRegistry other) target).run (Called.invoke (s.called? r.registry)) := by
  cases called : s.called? r.registry with
  | none =>
    have uncalled : s.called? (r.withRegistry other).registry = none := by
      by_cases custom : s.action = .custom
      · have unknown : r.registry.action? (s.customName.getD "") = .none := by
          simpa [called?, custom] using called
        simp [called?, custom, Runner.withRegistry, names.action _ unknown]
      · simp [called?, custom]
    rw [act_uncalled called, act_uncalled uncalled]
    exact Play.invokes_own (Play.own_congruence.act Registry.empty_related s target)
  | some _ =>
    obtain ⟨custom, handler, found, rfl⟩ := called?_eq_some_iff.mp called
    have does : (Called.action s handler).play r =
        (s.act r target).run >>= fun _ => pure () := by
      simp only [Called.play, act_custom custom found, bind_assoc, pure_bind]
    refine Play.invokes_called (.action member custom found) does ?_
    rintro ⟨same, there, alike⟩
    rw [act_custom (r := r.withRegistry other) custom there, act_custom custom found, alike]
    rfl

namespace Validation

variable {s : Step} {v : Validation}

theorem check_invokes (member : s ∈ steps) (ofStep : v ∈ s.validations) (scope : Scope) :
    Play.Invokes r page other (Called.Of steps r.registry) (v.check r scope).run
      (v.check (r.withRegistry other) scope).run
      (Called.invoke (v.called? r.registry scope)) := by
  cases called : v.called? r.registry scope with
  | none =>
    have uncalled : v.called? (r.withRegistry other).registry scope = none := by
      by_cases custom : v.kind = .custom
      · have unknown : r.registry.validation? (v.customName.getD "") = .none := by
          simpa [called?, custom] using called
        simp [called?, custom, Runner.withRegistry, names.validation _ unknown]
      · simp [called?, custom]
    rw [check_uncalled called, check_uncalled uncalled]
    exact Play.invokes_own (Play.own_congruence.check Registry.empty_related v scope)
  | some _ =>
    obtain ⟨custom, handler, found, rfl⟩ := called?_eq_some_iff.mp called
    have does : (Called.validation v scope handler).play r =
        (v.check r scope).run >>= fun _ => pure () := by
      simp only [Called.play, check_custom custom found, bind_assoc, pure_bind]
    refine Play.invokes_called (.validation member ofStep custom found) does ?_
    rintro ⟨same, there, alike⟩
    rw [check_custom (r := r.withRegistry other) custom there, check_custom custom found, alike]

theorem evaluate_invokes (member : s ∈ steps) (ofStep : v ∈ s.validations)
    (inherited : Option Target) :
    Play.Invokes r page other (Called.Of steps r.registry) (v.evaluate r inherited).run
      (v.evaluate (r.withRegistry other) inherited).run (v.invocations r inherited) := by
  cases resolved : v.selection.target? with
  | error fault =>
    simp only [evaluate, invocations, resolved]
    exact Play.invokes_pure _
  | ok own =>
    rw [evaluate_run resolved, evaluate_run resolved]
    simp only [invocations, resolved]
    exact (check_invokes names member ofStep _).map v.judge

end Validation

namespace Step

variable {s : Step} (member : s ∈ steps)

include member

theorem evaluateAll_invokes (target : Option Target) {vs : List Validation}
    (ofStep : vs ⊆ s.validations) :
    Play.Invokes r page other (Called.Of steps r.registry) (evaluateAll r target vs)
      (evaluateAll (r.withRegistry other) target vs) (checkInvocations r page target vs) := by
  induction vs with
  | nil => exact Play.invokes_pure _
  | cons v rest ih =>
    have first : Play.Invokes r page other _ (v.evaluate r target).run _ _ :=
      Validation.evaluate_invokes names member (ofStep (List.mem_cons_self ..)) target
    refine first.bind fun x => ?_
    rcases x with fault | verdict
    · exact Play.invokes_pure _
    · exact (ih fun v later => ofStep (List.mem_cons_of_mem _ later)).map _

theorem round_invokes (target : Option Target) :
    Play.Invokes r page other (Called.Of steps r.registry) (s.round r target)
      (s.round (r.withRegistry other) target) (s.roundInvocations r page target) := by
  refine (act_invokes names member target).bind fun x => ?_
  rcases x with fault | _
  · exact Play.invokes_pure _
  · refine (Play.invokes_own (Play.own_congruence.pauseAfter s)).bind fun x => ?_
    rcases x with fault | _
    · exact Play.invokes_pure _
    · exact evaluateAll_invokes names member target fun _ => id

theorem rounds_invokes (base : Target) (place count : Nat) :
    Play.Invokes r page other (Called.Of steps r.registry) (s.rounds r base place count)
      (s.rounds (r.withRegistry other) base place count)
      (s.roundsInvocations r page base place count) := by
  induction count generalizing place with
  | zero => exact Play.invokes_pure _
  | succ count ih =>
    refine (round_invokes names member _).bind fun this => ?_
    cases this.fault with
    | some fault => exact Play.invokes_pure _
    | none => exact (ih (place + 1)).map _

theorem drive_invokes : Play.Invokes r page other (Called.Of steps r.registry) (s.drive r)
    (s.drive (r.withRegistry other)) (s.invocations r page) := by
  rcases resolved : s.selection.target? with fault | _ | base
  · simp only [drive, invocations, resolved]
    exact Play.invokes_pure _
  · simp only [drive, invocations, resolved]
    exact (round_invokes names member none).map _
  · simp only [drive, invocations, resolved]
    split
    · have counts := Play.own_congruence.stepCall s (c := .count base) (by simp)
      refine (Play.invokes_own counts).bind fun x => ?_
      rcases x with fault | count
      · exact Play.invokes_pure _
      · exact (rounds_invokes names member base 0 count).map _
    · exact (round_invokes names member _).map _

omit member in
theorem runAll_invokes (position : Nat) {rest : List Step} (among : rest ⊆ steps) :
    Play.Invokes r page other (Called.Of steps r.registry) (runAll r position rest)
      (runAll (r.withRegistry other) position rest) (runInvocations r page rest) := by
  induction rest generalizing position with
  | nil => exact Play.invokes_pure _
  | cons s rest ih =>
    have this : Play.Invokes r page other _ (s.drive r) _ _ :=
      drive_invokes names (among (List.mem_cons_self ..))
    refine Play.invokes_clock_bind fun start => this.bind fun course => ?_
    refine Play.invokes_clock_bind fun finish => ?_
    dsimp only
    split
    · exact Play.invokes_pure _
    · exact (ih (position + 1) fun s later => among (List.mem_cons_of_mem _ later)).map _

end Step

theorem TestCase.runHere_invokes (c : TestCase) :
    Play.Invokes r page other (Called.Of c.steps r.registry) (c.runHere r).run
      (c.runHere (r.withRegistry other)).run (c.invocations r page) := by
  simp only [runHere]
  split
  · next empty =>
    have none : c.steps = [] := by simpa using empty
    unfold invocations
    rw [none]
    exact Play.invokes_pure _
  · simp only [ExceptT.run_bind, Attempt.run_ofPlay, bind_assoc, pure_bind, ExceptT.run_pure]
    refine Play.invokes_newId_bind fun id => Play.invokes_clock_bind fun start => ?_
    have ran : Play.Invokes r page other _ (Step.runAll r 0 c.steps) _ _ :=
      Step.runAll_invokes names 0 (List.Subset.refl c.steps)
    rw [← Play.thenInvokes_none page (Step.runAll r 0 c.steps) (Step.runInvocations r page c.steps)]
    exact ran.bind fun _ => Play.invokes_clock_bind fun finish => Play.invokes_pure _

end

/-- The handlers keep nothing in the context. -/
def Registry.KeepsNothing (r : Registry) : Prop := r.Confined (fun q => ∀ c, q ≠ .keep c) True

theorem Registry.builtin_keepsNothing : Registry.builtin.KeepsNothing :=
  builtin_parametric.confined fun _ own => own.keepsNothing

namespace TestCase

/-- What becomes of the context of a run. The handlers that are called, all of them registered under
the name of a custom step or validation, are handed it one after the other, and the run ends with it
as the last one leaves it. They account for all that the run has of its registry: it makes their
calls, crashes when one of them does, and is the same with any other handlers in place of those that
are not called. The handlers that come with the program do not touch it. -/
structure HandsOn (c : TestCase) (r : Runner) (page : Page σ) (w : World σ) : Prop where
  handed : Handed r page w.context (c.course r page w).world.context (c.invocations r page w)
  registered : ∀ i ∈ c.invocations r page w, i.called.Of c.steps r.registry
  calls : ((c.invocations r page w).flatMap fun i => (i.course r page).calls).Sublist
    (c.course r page w).calls
  crashed : (c.course r page w).result = none ↔
    ∃ i ∈ c.invocations r page w, (i.course r page).result = none
  only : ∀ other : Registry, other.NamesIn r.registry →
    (∀ i ∈ c.invocations r page w, i.called.AlsoIn other) →
      c.course (r.withRegistry other) page w = c.course r page w
  untouched : (c.course (r.withRegistry .builtin) page w).world.context = w.context

theorem course_context {c : TestCase} {r : Runner} (keepsNothing : r.registry.KeepsNothing)
    (page : Page σ) (w : World σ) : (c.course r page w).world.context = w.context := by
  by_cases none : c.steps = []
  · rw [course_of_nil c r none]
  · rw [course_eq c r none]
    exact Play.context_of_confined
      (Step.runAll_confined (fun _ own => own.keepsNothing) keepsNothing 0 c.steps) page _

theorem hands_on (c : TestCase) (r : Runner) (page : Page σ) (w : World σ) :
    c.HandsOn r page w :=
  have names : r.registry.NamesIn r.registry := ⟨fun _ => id, fun _ => id⟩
  have invokes : Play.Invokes r page r.registry _ (c.runHere r).run _ _ :=
    c.runHere_invokes names
  { handed := invokes.handed w
    registered := invokes.who w
    calls := invokes.calls w
    crashed := invokes.crashed w
    only := fun _ names => (c.runHere_invokes names).only w
    untouched := course_context Registry.builtin_keepsNothing page w }

end TestCase

namespace Sample

def noting : ActionHandler := fun s => do
  let c ← Attempt.ofPlay Play.context
  Attempt.ofPlay (Play.keep (c.set s.dataText .null))

def twoNotes : TestCase where
  description := "notes"
  steps := [
    { action := .custom, customName := some "note", data := some (.string "a") },
    { action := .goto },
    { action := .custom, customName := some "note", data := some (.string "b") }]

def notingRunner : Runner := { registry := Registry.builtin.addAction "note" noting }

theorem notes_handed_on :
    let c := twoNotes.course notingRunner MemoryPage.page blank
    let handlers := twoNotes.invocations notingRunner MemoryPage.page blank
    Handed notingRunner MemoryPage.page {} c.world.context handlers ∧
      handlers.map (·.begun.context.values.map (·.1)) = [[], ["a"]] ∧
      c.world.context.values.map (·.1) = ["a", "b"] ∧ c.result ≠ none ∧
      (twoNotes.course {} MemoryPage.page blank).world.context = {} := by
  intro c handlers
  obtain ⟨handed, -, -, crashed, -, untouched⟩ :=
    TestCase.hands_on twoNotes notingRunner MemoryPage.page blank
  have answered : handlers.all fun i => (i.course notingRunner MemoryPage.page).result.isSome := by
    decide +kernel
  have reports : c.result ≠ none := by
    intro none_
    obtain ⟨i, member, fails⟩ := crashed.mp none_
    have answers := List.all_eq_true.mp answered i member
    rw [fails] at answers
    cases answers
  exact ⟨handed, by decide +kernel, by decide +kernel, reports, untouched⟩

end Sample

end Walkthrough
