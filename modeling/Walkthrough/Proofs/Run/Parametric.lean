import Walkthrough.Batch
import Walkthrough.Proofs.Play.Ensures

/-!
The runner treats the plays of its handlers as they are: it waits for them, gives them up when they
take too long, and goes on with what they return. So a relation between plays that is kept in all
this relates the runs of two registries whose handlers it relates.
-/
namespace Walkthrough

/-- A relation that is kept wherever the runner puts plays together. The runner makes calls of its
own, though it never closes the page. -/
structure Play.Congruence (R : {α : Type} → Play α → Play α → Prop) : Prop where
  done : ∀ {α : Type} (a : α), R (pure a) (pure a)
  bind : ∀ {α β : Type} {p q : Play α} {next other : α → Play β}, R p q →
    (∀ a, R (next a) (other a)) → R (p >>= next) (q >>= other)
  call : ∀ c : Call, c ≠ .close → R (Play.call c) (Play.call c)
  limited : ∀ {α : Type} (limit : Nat) {p q : Play α}, R p q → R (p.limited limit) (q.limited limit)
  poll : ∀ (e : Expect) {probe other : Play (Except PageFault Probe)}, R probe other →
    R (e.poll probe) (e.poll other)

def Request.IsOwn : Request → Prop
  | .call c => c ≠ .close
  | .sleep _ | .clock => True
  | _ => False

section

variable {R : {α : Type} → Play α → Play α → Prop}
  (done : ∀ {α : Type} (a : α), R (pure a) (pure a))
  (bind : ∀ {α β : Type} {p q : Play α} {next other : α → Play β}, R p q →
    (∀ a, R (next a) (other a)) → R (p >>= next) (q >>= other))

include done bind

section

variable (clock : R Play.clock Play.clock) (sleep : ∀ ms, R (Play.sleep ms) (Play.sleep ms))

include clock sleep

theorem Expect.waitOr_related (deadline interval : Nat) (observed : String)
    {again once : Play (Except String Unit)} (h : R again once) :
    R (waitOr deadline interval observed again) (waitOr deadline interval observed once) := by
  refine bind clock fun now => ?_
  split
  · exact done _
  · exact bind (sleep _) fun _ => h

theorem Expect.poll_related (e : Expect) {probe other : Play (Except PageFault Probe)}
    (h : R probe other) : R (e.poll probe) (e.poll other) := by
  refine bind clock fun now => ?_
  generalize e.rounds = rounds
  induction rounds with
  | zero =>
    refine bind h fun reading => ?_
    split <;> exact done _
  | succ rounds ih =>
    refine bind h fun reading => ?_
    split
    · exact done _
    · exact waitOr_related done bind clock sleep _ _ _ ih

end

theorem Play.Congruence.of_requests
    (request : ∀ q : Request, q.IsOwn → R (Play.request q) (Play.request q))
    (within : ∀ {α : Type} (deadline : Nat) {p q : Play α}, R p q →
      R (p.within deadline) (q.within deadline)) : Play.Congruence R where
  done := done
  bind := bind
  call _ open_ := request (.call _) open_
  limited _ _ _ h := bind (request .clock trivial) fun _ => within _ h
  poll e _ _ h := Expect.poll_related done bind (request .clock trivial)
    (fun _ => request (.sleep _) trivial) e h

end

/-- The registries have handlers of the same names, and those of one name are related. -/
structure Registry.Related (R : {α : Type} → Play α → Play α → Prop) (r r' : Registry) :
    Prop where
  action : ∀ name, Option.Rel (fun h h' : ActionHandler => ∀ s, R (h s).run (h' s).run)
    (r.action? name) (r'.action? name)
  validation : ∀ name, Option.Rel
    (fun h h' : ValidationHandler => ∀ v scope, R (h v scope).run (h' v scope).run)
    (r.validation? name) (r'.validation? name)

/-- The handlers of the registry are related to themselves, whatever the relation is: like the
runner, they do nothing but call, wait and poll. -/
def Registry.Parametric (r : Registry) : Prop :=
  ∀ {R : {α : Type} → Play α → Play α → Prop}, Play.Congruence R → r.Related R r

theorem Registry.related_self {R : {α : Type} → Play α → Play α → Prop} {r : Registry}
    (action : ∀ name h, r.action? name = some h → ∀ s, R (h s).run (h s).run)
    (validation : ∀ name h, r.validation? name = some h → ∀ v scope,
      R (h v scope).run (h v scope).run) : r.Related R r where
  action name := by
    cases found : r.action? name with
    | none => exact .none
    | some h => exact .some (action name h found)
  validation name := by
    cases found : r.validation? name with
    | none => exact .none
    | some h => exact .some (validation name h found)

theorem Registry.Related.action_of_found {R : {α : Type} → Play α → Play α → Prop} {r : Registry}
    (h : r.Related R r) {name : String} {handler : ActionHandler}
    (found : r.action? name = some handler) (s : Step) : R (handler s).run (handler s).run := by
  have related := h.action name
  rw [found] at related
  cases related with
  | some related => exact related s

theorem Registry.Related.validation_of_found {R : {α : Type} → Play α → Play α → Prop}
    {r : Registry} (h : r.Related R r) {name : String} {handler : ValidationHandler}
    (found : r.validation? name = some handler) (v : Validation) (scope : Scope) :
    R (handler v scope).run (handler v scope).run := by
  have related := h.validation name
  rw [found] at related
  cases related with
  | some related => exact related v scope

theorem Registry.lookup_put {α : Type} (name other : String) (a : α)
    (entries : List (String × α)) :
    (put name a entries).lookup other = if other = name then some a else entries.lookup other := by
  by_cases same : other = name
  · simp [put, same]
  · have differs : (other == name) = false := by simpa using same
    have rest : (entries.filter (·.1 != name)).lookup other = entries.lookup other := by
      induction entries with
      | nil => rfl
      | cons entry rest ih =>
        obtain ⟨key, b⟩ := entry
        by_cases kept : key = name
        · simpa [kept, List.lookup_cons, differs] using ih
        · simp [kept, List.lookup_cons, ih]
    simp [put, List.lookup_cons, same, differs, rest]

theorem Registry.lookup_map {α β : Type} (f : α → β) (name : String)
    (entries : List (String × α)) :
    (entries.map (Prod.map id f)).lookup name = (entries.lookup name).map f := by
  induction entries with
  | nil => rfl
  | cons entry rest ih =>
    obtain ⟨other, a⟩ := entry
    simp only [List.map_cons, Prod.map_apply, id_eq, List.lookup_cons, ih]
    cases name == other <;> rfl

theorem Registry.Related.addAction {R : {α : Type} → Play α → Play α → Prop} {r r' : Registry}
    (h : r.Related R r') (name : String) {handler handler' : ActionHandler}
    (new : ∀ s, R (handler s).run (handler' s).run) :
    (r.addAction name handler).Related R (r'.addAction name handler') where
  action other := by
    have found : ∀ (r : Registry) (h : ActionHandler), (r.addAction name h).action? other =
        if other = name then some h else r.action? other := fun r h => lookup_put name other h _
    rw [found, found]
    split
    · exact .some new
    · exact h.action other
  validation other := h.validation other

def Runner.withRegistry (r : Runner) (registry : Registry) : Runner :=
  { r with registry := registry }

def Call.IsReading : Call → Prop
  | .title | .url | .content | .isVisible _ | .textContent _ | .inputValue _ | .getAttribute _ _
  | .computedStyle _ _ => True
  | _ => False

def Call.OnlyOn (target : Option Target) (c : Call) : Prop :=
  ∀ t, c.target? = some t → target = some t

theorem Validation.requireTarget_eq_ok {v : Validation} {target : Option Target} {t : Target}
    (h : v.requireTarget target = .ok t) : target = some t := by
  cases target with
  | none => cases h
  | some own => cases h; rfl

theorem Validation.assertion?_reads {v : Validation} {target : Option Target} {a : Assertion}
    (h : v.assertion? target = .ok (some a)) : a.call.IsReading ∧ a.call.OnlyOn target := by
  cases kind : v.kind
  all_goals simp only [assertion?, kind, bind, Except.bind, pure, Except.pure] at h
  all_goals repeat' split at h
  all_goals cases h
  all_goals refine ⟨trivial, ?_⟩
  all_goals rintro _ ⟨⟩
  all_goals exact requireTarget_eq_ok ‹_›

theorem Validation.assertion?_call {v : Validation} {target : Option Target} {a : Assertion}
    (h : v.assertion? target = .ok (some a)) : a.call ≠ .close := by
  intro closes
  have reads := (assertion?_reads h).1
  rw [closes] at reads
  exact reads

theorem Step.interaction?_target {s : Step} {t : Target} {c : Call}
    (h : s.interaction? t = some c) : c.target? = some t := by
  unfold interaction? at h
  split at h
  all_goals cases h
  all_goals rfl

theorem Step.interaction?_call {s : Step} {t : Target} {c : Call}
    (h : s.interaction? t = some c) : c ≠ .close := by
  rintro rfl
  cases interaction?_target h

namespace Play.Congruence

variable {R : {α : Type} → Play α → Play α → Prop} (keeps : Play.Congruence R)

include keeps

section

variable {ε δ α β : Type}

theorem attempt_pure (a : α) : R (pure a : Attempt ε α).run (pure a : Attempt ε α).run :=
  keeps.done _

theorem attempt_throw (e : ε) : R (throw e : Attempt ε α).run (throw e : Attempt ε α).run :=
  keeps.done _

theorem attempt_ofPlay {p q : Play α} (h : R p q) :
    R (Attempt.ofPlay p : Attempt ε α).run (Attempt.ofPlay q : Attempt ε α).run :=
  keeps.bind h fun _ => keeps.done _

theorem attempt_result {a b : Attempt ε α} (h : R a.run b.run) :
    R (Attempt.result a : Attempt δ _).run (Attempt.result b : Attempt δ _).run :=
  keeps.bind h fun _ => keeps.done _

theorem attempt_bind {a b : Attempt ε α} {next other : α → Attempt ε β} (first : R a.run b.run)
    (goesOn : ∀ x, R (next x).run (other x).run) : R (a >>= next).run (b >>= other).run := by
  refine keeps.bind first fun x => ?_
  cases x with
  | ok x => exact goesOn x
  | error e => exact keeps.done _

end

theorem handlerCall {c : Call} (open_ : c ≠ .close) :
    R (Handler.call c).run (Handler.call c).run := by
  refine keeps.attempt_bind (keeps.attempt_ofPlay (keeps.call c open_)) fun answer => ?_
  split
  · exact keeps.attempt_pure _
  · exact keeps.attempt_throw _

theorem assertion {a : Assertion} (open_ : a.call ≠ .close) (e : Expect) :
    R (a.check e) (a.check e) :=
  keeps.poll e <| keeps.bind (keeps.call _ open_) fun _ => keeps.done _

section

variable (s : Step)

theorem stepCall {c : Call} (open_ : c ≠ .close) : R (s.call c).run (s.call c).run := by
  refine keeps.attempt_bind (keeps.attempt_ofPlay (keeps.call c open_)) fun answer => ?_
  split
  · exact keeps.attempt_pure _
  · exact keeps.attempt_throw _

theorem interact (target : Option Target) : R (s.interact target).run (s.interact target).run := by
  unfold Step.interact
  split
  · exact keeps.attempt_pure _
  · split
    · rename_i c made
      have open_ := Step.interaction?_call made
      exact keeps.attempt_bind (keeps.stepCall s open_) fun _ => keeps.attempt_pure _
    · exact keeps.attempt_throw _

theorem upload (directory : String) (target : Option Target) :
    R (s.upload directory target).run (s.upload directory target).run := by
  unfold Step.upload
  split
  · exact keeps.attempt_throw _
  · split
    · exact keeps.attempt_throw _
    · split
      · exact keeps.attempt_bind (keeps.stepCall s (by simp)) fun _ => keeps.stepCall s (by simp)
      · exact keeps.stepCall s (by simp)

theorem pause : R s.pause.run s.pause.run := by
  unfold Step.pause
  split
  · split
    · exact keeps.stepCall s (by simp)
    · exact keeps.attempt_pure _
  · exact keeps.attempt_pure _

theorem pauseAfter : R s.pauseAfter.run s.pauseAfter.run := by
  unfold Step.pauseAfter
  split
  · exact keeps.attempt_pure _
  · exact keeps.pause s

theorem limited_attempt (limit : Nat) {a b : Attempt StepFault Unit} (h : R a.run b.run) :
    R (s.limited limit a).run (s.limited limit b).run := by
  refine keeps.attempt_bind (keeps.attempt_ofPlay (keeps.limited limit h)) fun x => ?_
  split
  · exact keeps.attempt_pure _
  · exact keeps.attempt_throw _
  · exact keeps.attempt_throw _

end

variable {r : Runner} {registry : Registry} (handlers : r.registry.Related R registry)

include handlers

theorem action (s : Step) : R (s.callHandler r.registry).run (s.callHandler registry).run := by
  have related := handlers.action (s.customName.getD "")
  unfold Step.callHandler
  dsimp only
  generalize r.registry.action? (s.customName.getD "") = first at related ⊢
  generalize registry.action? (s.customName.getD "") = second at related ⊢
  cases related with
  | none => exact keeps.attempt_throw _
  | some related =>
    refine keeps.attempt_bind (keeps.attempt_result (related s)) fun x => ?_
    split
    · exact keeps.attempt_pure _
    · exact keeps.attempt_throw _

theorem unlimited (s : Step) (target : Option Target) :
    R (s.unlimited r target).run (s.unlimited (r.withRegistry registry) target).run := by
  unfold Step.unlimited
  split
  · exact keeps.stepCall s (by simp)
  any_goals exact keeps.interact s target
  · exact keeps.upload s _ target
  · exact keeps.pause s
  · exact keeps.action handlers s
  · exact keeps.attempt_throw _

theorem act (s : Step) (target : Option Target) :
    R (s.act r target).run (s.act (r.withRegistry registry) target).run := by
  unfold Step.act
  split
  · exact keeps.attempt_throw _
  · exact keeps.pause s
  · by_cases lacks : s.lacksTarget r.settings target = true
    · simp only [Runner.withRegistry, lacks, if_true]
      exact keeps.attempt_throw _
    · simp only [Runner.withRegistry, lacks, Bool.false_eq_true, if_false]
      exact keeps.limited_attempt s _ (keeps.unlimited handlers s target)

theorem validation (v : Validation) (scope : Scope) :
    R (v.callHandler r.registry scope).run (v.callHandler registry scope).run := by
  have related := handlers.validation (v.customName.getD "")
  unfold Validation.callHandler
  dsimp only
  generalize r.registry.validation? (v.customName.getD "") = first at related ⊢
  generalize registry.validation? (v.customName.getD "") = second at related ⊢
  cases related with
  | none => exact keeps.attempt_throw _
  | some related =>
    refine keeps.attempt_bind (keeps.attempt_result (related v scope)) fun x => ?_
    split
    · exact keeps.attempt_pure _
    · exact keeps.attempt_throw _

theorem check (v : Validation) (scope : Scope) :
    R (v.check r scope).run (v.check (r.withRegistry registry) scope).run := by
  unfold Validation.check
  split
  · exact keeps.validation handlers v scope
  · by_cases strict : r.settings.strictValidationTypes = true
    · simp only [Runner.withRegistry, strict, if_true]
      exact keeps.attempt_throw _
    · simp only [Runner.withRegistry, strict, Bool.false_eq_true, if_false]
      exact keeps.attempt_pure _
  · split
    · exact keeps.attempt_throw _
    · exact keeps.attempt_pure _
    · rename_i a asserts
      have checked := keeps.assertion (Validation.assertion?_call asserts) scope.expect
      refine keeps.attempt_bind (keeps.attempt_ofPlay checked) fun x => ?_
      split
      · exact keeps.attempt_pure _
      · exact keeps.attempt_throw _

theorem evaluate (v : Validation) (inherited : Option Target) :
    R (v.evaluate r inherited).run (v.evaluate (r.withRegistry registry) inherited).run := by
  unfold Validation.evaluate
  split
  · exact keeps.attempt_throw _
  · refine keeps.attempt_bind (keeps.attempt_result (keeps.check handlers v _)) fun x => ?_
    split
    · exact keeps.attempt_pure _
    · split
      · exact keeps.attempt_pure _
      · exact keeps.attempt_throw _

theorem evaluateAll (target : Option Target) (vs : List Validation) :
    R (Step.evaluateAll r target vs) (Step.evaluateAll (r.withRegistry registry) target vs) := by
  induction vs with
  | nil => exact keeps.done _
  | cons v rest ih =>
    refine keeps.bind (keeps.evaluate handlers v target) fun x => ?_
    split
    · exact keeps.done _
    · exact keeps.bind ih fun _ => keeps.done _

theorem round (s : Step) (target : Option Target) :
    R (s.round r target) (s.round (r.withRegistry registry) target) := by
  refine keeps.bind (keeps.act handlers s target) fun x => ?_
  split
  · exact keeps.done _
  · refine keeps.bind (keeps.pauseAfter s) fun x => ?_
    split
    · exact keeps.done _
    · exact keeps.evaluateAll handlers target s.validations

theorem rounds (s : Step) (base : Target) (place count : Nat) :
    R (s.rounds r base place count) (s.rounds (r.withRegistry registry) base place count) := by
  induction count generalizing place with
  | zero => exact keeps.done _
  | succ count ih =>
    refine keeps.bind (keeps.round handlers s _) fun this => ?_
    split
    · exact keeps.done _
    · exact keeps.bind (ih (place + 1)) fun _ => keeps.done _

theorem drive (s : Step) : R (s.drive r) (s.drive (r.withRegistry registry)) := by
  unfold Step.drive
  split
  · exact keeps.done _
  · exact keeps.bind (keeps.round handlers s none) fun _ => keeps.done _
  · split
    · refine keeps.bind (keeps.stepCall s (by simp)) fun x => ?_
      split
      · exact keeps.done _
      · exact keeps.bind (keeps.rounds handlers s _ 0 _) fun _ => keeps.done _
    · exact keeps.bind (keeps.round handlers s _) fun _ => keeps.done _

theorem runAll (clock : R Play.clock Play.clock) (position : Nat) (steps : List Step) :
    R (Step.runAll r position steps) (Step.runAll (r.withRegistry registry) position steps) := by
  induction steps generalizing position with
  | nil => exact keeps.done _
  | cons s rest ih =>
    refine keeps.bind clock fun start => keeps.bind (keeps.drive handlers s) fun course => ?_
    refine keeps.bind clock fun finish => ?_
    dsimp only
    split
    · exact keeps.done _
    · exact keeps.bind (ih (position + 1)) fun _ => keeps.done _

variable (request : ∀ q : Request, q ≠ .call .close → R (Play.request q) (Play.request q))

include request

theorem runHere (c : TestCase) :
    R (c.runHere r).run (c.runHere (r.withRegistry registry)).run := by
  have clock := keeps.attempt_ofPlay (ε := StepFault) (request .clock nofun)
  simp only [TestCase.runHere]
  split
  · exact keeps.done _
  · refine keeps.attempt_bind (keeps.attempt_ofPlay (request .newId nofun)) fun id => ?_
    refine keeps.attempt_bind clock fun start => ?_
    have steps := keeps.runAll handlers (request .clock nofun) 0 c.steps
    refine keeps.attempt_bind (keeps.attempt_ofPlay steps) fun ran => ?_
    exact keeps.attempt_bind clock fun finish => keeps.done _

theorem run (c : TestCase) : R (c.run r).run (c.run (r.withRegistry registry)).run := by
  refine keeps.attempt_bind (keeps.attempt_ofPlay (request (.keep .empty) nofun)) fun _ => ?_
  exact keeps.runHere handlers request c

theorem runInBatch (c : TestCase) :
    R (c.runInBatch r) (c.runInBatch (r.withRegistry registry)) := by
  refine keeps.bind (keeps.run handlers request c) fun x => ?_
  split
  · exact keeps.done _
  · refine keeps.bind (request .newId nofun) fun id => ?_
    exact keeps.bind (request .clock nofun) fun now => keeps.done _

theorem runInTurn (cases : List TestCase) :
    R (Batch.runInTurn r cases) (Batch.runInTurn (r.withRegistry registry) cases) := by
  induction cases with
  | nil => exact keeps.done _
  | cons c rest ih =>
    refine keeps.bind (keeps.runInBatch handlers request c) fun report => ?_
    exact keeps.bind ih fun others => keeps.done _

end Play.Congruence

end Walkthrough
