import Walkthrough.Proofs.Check.Flaws
import Walkthrough.Proofs.Check.Polling
import Walkthrough.Proofs.Check.Reading

/-!
Validations at a glance. On a page that keeps to its answers an evaluation comes to what one look
at the page comes to, however long it goes on.
-/
namespace Walkthrough

variable {σ : Type}

/-- A call whose value is judged. -/
structure Reading where
  call : Call
  wanted : call.Value → Prop
  /-- The value in words, where it is not the wanted one. -/
  shown : call.Value → String

namespace Reading

def Satisfied (x : Reading) (answer : x.call.Answer) : Prop :=
  ∃ value, answer = .ok value ∧ x.wanted value

def received (x : Reading) : x.call.Answer → String
  | .ok value => x.shown value
  | .error fault => fault.message

end Reading

namespace Validation

/-- What a validation that has all its kind needs reads of its target. -/
inductive Reads (v : Validation) : Option Target → Reading → Prop where
  | visible {t : Target} (kind : v.kind = .toBeVisible) :
      Reads v (some t) ⟨.isVisible t, fun shown => shown = true, fun _ => "hidden or absent"⟩
  | hidden {t : Target} (kind : v.kind = .toBeHidden) :
      Reads v (some t) ⟨.isVisible t, fun shown => shown = false, fun _ => "visible"⟩
  | title {target : Option Target} (kind : v.kind = .toHaveTitle) :
      Reads v target ⟨.title, fun title => Text.squeeze title = Text.squeeze v.dataText, id⟩
  | url {target : Option Target} {pattern : Pattern.Regex} (kind : v.kind = .toHaveUrl)
      (compiles : Pattern.parse v.dataText = .ok pattern) :
      Reads v target ⟨.url, fun url => pattern.matchesIn url = true, id⟩
  | text {t : Target} (kind : v.kind = .toHaveText) :
      Reads v (some t) ⟨.textContent t,
        fun text => Text.squeeze (text.getD "") = Text.squeeze v.dataText, (·.getD "")⟩
  | value {t : Target} (kind : v.kind = .toHaveValue) :
      Reads v (some t) ⟨.inputValue t, (· = v.dataText), id⟩
  | attributeValue {t : Target} {name : String} (kind : v.kind = .toHaveAttribute)
      (named : v.attributeName = some name) (given : name ≠ "") :
      Reads v (some t) ⟨.getAttribute t name, (· = some v.dataText), (·.getD "<absent>")⟩
  | style {t : Target} {property : String} (kind : v.kind = .toHaveCss)
      (named : v.cssProperty = some property) (given : property ≠ "") :
      Reads v (some t) ⟨.computedStyle t property, (· = v.dataText), id⟩
  | classes {t : Target} {pattern : Pattern.Regex} (kind : v.kind = .toHaveClass)
      (compiles : Pattern.parse v.dataText = .ok pattern) :
      Reads v (some t) ⟨.getAttribute t "class",
        fun names => pattern.matchesIn (names.getD "") = true, (·.getD "")⟩

/-- A validation with a selector looks where this leads, and otherwise at the target that it
inherits. -/
inductive LooksAt (v : Validation) (inherited : Option Target) : Option Target → Prop where
  | own {selector : String} {locator : Locator} (selects : v.selector = some selector)
      (given : selector ≠ "")
      (located : (v.strategy.getD .css).locator? selector = some locator) :
      LooksAt v inherited (some ⟨locator, v.index?⟩)
  | inherited (selects : v.selector.getD "" = "") : LooksAt v inherited inherited

theorem looksAt_iff {v : Validation} {inherited target : Option Target} :
    v.LooksAt inherited target ↔
      ∃ own, v.selection.target? = .ok own ∧ own.or inherited = target := by
  have narrowed (locator : Locator) :
      (Target.mk locator none).narrowed v.index? = ⟨locator, v.index?⟩ := by
    cases v.index? <;> rfl
  constructor
  · intro looks
    cases looks with
    | @own selector locator selects given located =>
      refine ⟨some ⟨locator, v.index?⟩, ?_, rfl⟩
      have selected : v.selection.selector? = some selector := by
        simp [Selection.selector?, selection, selects, given]
      have used : v.selection.strategyUsed.locator? selector = some locator := located
      simp only [Selection.target?, selected, used]
      exact congrArg (Except.ok ∘ some) (narrowed locator)
    | inherited selects =>
      refine ⟨none, ?_, rfl⟩
      have selected : v.selection.selector? = none := by
        cases given : v.selector <;> simp_all [Selection.selector?, selection]
      simp only [Selection.target?, selected]
  · rintro ⟨own, resolved, rfl⟩
    unfold Selection.target? at resolved
    split at resolved
    · next selected =>
      cases resolved
      refine .inherited ?_
      cases given : v.selector with
      | none => rfl
      | some selector => simpa [Selection.selector?, selection, given] using selected
    · next selector selected =>
      split at resolved
      · next locator located =>
        cases resolved
        rw [show indexOf? v.selection.nth = v.index? from rfl, narrowed]
        obtain ⟨selects, given⟩ := Option.filter_eq_some_iff.mp selected
        exact .own selects (by simpa using given) located
      · cases resolved

end Validation

structure Reading.JudgedBy (x : Reading) (judge : x.call.Value → Probe) : Prop where
  holds : ∀ value, x.wanted value → judge value = .holds
  fails : ∀ value, ¬ x.wanted value → judge value = .fails (x.shown value)

theorem Reading.judgedBy_ofBool {x : Reading} {test : x.call.Value → Bool}
    (tests : ∀ value, test value = true ↔ x.wanted value) :
    x.JudgedBy fun value => .ofBool (test value) (x.shown value) where
  holds value wanted := if_pos ((tests value).mpr wanted)
  fails value unwanted := if_neg (mt (tests value).mp unwanted)

theorem Validation.requireText_some {f : StepFault} {text : String} (given : text ≠ "") :
    requireText f (some text) = .ok text := by
  rw [requireText_eq, Option.getD_some, if_neg given]

theorem Validation.Reads.asserts {v : Validation} {target : Option Target} {x : Reading}
    (reads : v.Reads target x) : ∃ judge expectation,
      v.assertion? target = .ok (some ⟨x.call, judge, expectation⟩) ∧ x.JudgedBy judge := by
  cases reads with
  | visible kind =>
    refine ⟨_, _, by simp only [assertion?, kind]; rfl, ?_⟩
    exact Reading.judgedBy_ofBool fun _ => Iff.rfl
  | hidden kind =>
    refine ⟨_, _, by simp only [assertion?, kind]; rfl, ?_⟩
    exact Reading.judgedBy_ofBool fun _ => by simp
  | title kind =>
    refine ⟨_, _, by simp only [assertion?, kind]; rfl, ?_⟩
    exact Reading.judgedBy_ofBool fun _ => by simp
  | url kind compiles =>
    refine ⟨_, _, by simp only [assertion?, kind, pattern, compiles]; rfl, ?_⟩
    exact Reading.judgedBy_ofBool fun _ => Iff.rfl
  | text kind =>
    refine ⟨_, _, by simp only [assertion?, kind]; rfl, ?_⟩
    exact Reading.judgedBy_ofBool fun _ => by simp
  | value kind =>
    refine ⟨_, _, by simp only [assertion?, kind]; rfl, ?_⟩
    exact Reading.judgedBy_ofBool fun _ => by simp
  | attributeValue kind named given =>
    refine ⟨_, _, by simp only [assertion?, kind, named, requireText_some given]; rfl, ?_⟩
    exact Reading.judgedBy_ofBool fun _ => by simp
  | style kind named given =>
    refine ⟨_, _, by simp only [assertion?, kind, named, requireText_some given]; rfl, ?_⟩
    exact Reading.judgedBy_ofBool fun _ => by simp
  | classes kind compiles =>
    refine ⟨_, _, by simp only [assertion?, kind, pattern, compiles]; rfl, ?_⟩
    exact Reading.judgedBy_ofBool fun _ => Iff.rfl

namespace Page

variable (page : Page σ) (c : Call) (p : σ)

def served : Nat → σ
  | 0 => p
  | n + 1 => (page.serve c (served n)).after

/-- However often the call is made, the answer is the same. -/
def Steady (answer : c.Answer) : Prop := ∀ n, (page.serve c (page.served c p n)).answer = answer

/-- The call takes no time, however often it is made. -/
def Prompt : Prop := ∀ n, (page.serve c (page.served c p n)).delay = 0

end Page

theorem Expect.withOptions_interval (e : Expect) (options : Option Json) :
    (e.withOptions options).interval = e.interval := by
  unfold withOptions
  split <;> rfl

namespace Assertion

variable {a : Assertion} {e : Expect} {page : Page σ} {w : World σ} {answer : a.call.Answer}

theorem perform_probe (a : Assertion) (page : Page σ) (w : World σ) : a.probe.perform page w =
    ⟨some ((page.serve a.call w.page).answer.map a.judge), [⟨w.now, a.call⟩],
      (w.answer page (.call a.call)).2⟩ := rfl

theorem start_page (n : Nat) :
    ((e.polling page a.probe w).start w n).page = page.served a.call w.page n := by
  -- Nothing but the probe's own call is made between two probes, as a wait asks nothing of the page.
  induction n with
  | zero => rfl
  | succ n ih => exact congrArg (fun p => (page.serve a.call p).after) ih

theorem attempt_steady (steady : page.Steady a.call w.page answer) (n : Nat) :
    ((e.polling page a.probe w).attempt w n).result = some (answer.map a.judge) := by
  rw [← steady n, ← start_page]
  rfl

theorem finish_prompt (prompt : page.Prompt a.call w.page) (n : Nat) :
    (e.polling page a.probe w).finish w n = ((e.polling page a.probe w).start w n).now := by
  have delay := prompt n
  rw [← start_page (e := e)] at delay
  change _ + (page.serve a.call _).delay = _
  rw [delay, Nat.add_zero]

theorem check_of_holds (holds : (page.serve a.call w.page).answer.map a.judge = .ok .holds)
    (e : Expect) : (a.check e).perform page w =
      ⟨some (.ok ()), [⟨w.now, a.call⟩], (w.answer page (.call a.call)).2⟩ := by
  rw [check, Expect.poll_of_holds (by rw [perform_probe, holds]), perform_probe]

theorem check_steady (steady : page.Steady a.call w.page answer) (e : Expect) :
    ((a.check e).perform page w).result = some (Expect.settle (answer.map a.judge)) :=
  Expect.poll_steady (attempt_steady steady)

theorem check_prompt (steady : page.Steady a.call w.page answer)
    (prompt : page.Prompt a.call w.page) (fails : answer.map a.judge ≠ .ok .holds)
    (positive : 0 < e.interval) : ((a.check e).perform page w).world.now = w.now + e.timeout := by
  obtain ⟨last, few, ends⟩ := Expect.poll_ends positive (attempt_steady steady (e := e))
  exact ((Expect.pollsTo_of_endsWith positive few ends).idle (fun _ => fails)
    (finish_prompt prompt)).2

end Assertion

namespace Validation

variable {v : Validation} {r : Runner} {inherited target : Option Target} {x : Reading}
  {page : Page σ} {w : World σ} {answer : x.call.Answer}

def Passes (v : Validation) (r : Runner) (inherited : Option Target) (page : Page σ)
    (w : World σ) : Prop :=
  ((v.evaluate r inherited).run.perform page w).result = some (.ok .passed)

/-- What comes of a validation, from one look at the page. -/
structure SettledBy (v : Validation) (r : Runner) (inherited : Option Target) (page : Page σ)
    (w : World σ) (x : Reading) (answer : x.call.Answer) : Prop where
  passes_iff : v.Passes r inherited page w ↔ x.Satisfied answer
  /-- To pass takes one look and no wait. -/
  once : v.Passes r inherited page w → (v.evaluate r inherited).run.perform page w =
    ⟨some (.ok .passed), [⟨w.now, x.call⟩], (w.answer page (.call x.call)).2⟩
  fails : ¬ v.Passes r inherited page w → ∃ expectation,
    ((v.evaluate r inherited).run.perform page w).result = some (v.judge (.error
      (.assertion v.kind.name (.unmet expectation (x.received answer) (v.message.getD "")))))
  late : ¬ v.Passes r inherited page w → page.Prompt x.call w.page →
    0 < r.settings.pollInterval.millis → ((v.evaluate r inherited).run.perform page w).world.now =
      w.now + ((Expect.ofSettings r.settings).withOptions v.options).timeout

theorem check_run {scope : Scope} {a : Assertion}
    (asserts : v.assertion? scope.target = .ok (some a)) :
    (v.check r scope).run = a.check scope.expect >>= fun x => pure (x.mapError fun observed =>
      .assertion v.kind.name (.unmet a.expectation observed (v.message.getD ""))) := by
  unfold check
  split
  · next kind => simp [assertion?, kind, pure, Except.pure] at asserts
  · next name kind => simp [assertion?, kind, pure, Except.pure] at asserts
  · simp only [asserts, ExceptT.run_bind, Attempt.run_ofPlay, bind_assoc, pure_bind]
    refine bind_congr fun x => ?_
    rcases x with observed | _ <;> rfl

theorem evaluate_perform {a : Assertion} (looks : v.LooksAt inherited target)
    (asserts : v.assertion? target = .ok (some a)) (page : Page σ) (w : World σ) :
    (v.evaluate r inherited).run.perform page w =
      let c := (a.check ((Expect.ofSettings r.settings).withOptions v.options)).perform page w
      ⟨c.result.map fun x => v.judge (x.mapError fun observed =>
        .assertion v.kind.name (.unmet a.expectation observed (v.message.getD ""))),
        c.calls, c.world⟩ := by
  obtain ⟨own, resolved, rfl⟩ := looksAt_iff.mp looks
  have checked := check_run (r := r) (show v.assertion? (v.scopeIn r own inherited).target = _
    from asserts)
  rw [evaluate_run resolved, checked]
  simp only [bind_assoc, pure_bind, Play.perform_bind_pure]
  rfl

end Validation

namespace Reading.JudgedBy

variable {x : Reading} {judge : x.call.Value → Probe} (judged : x.JudgedBy judge)
  {answer : x.call.Answer}

include judged

theorem of_satisfied (satisfied : x.Satisfied answer) : answer.map judge = .ok .holds := by
  obtain ⟨value, rfl, wanted⟩ := satisfied
  exact congrArg Except.ok (judged.holds value wanted)

theorem of_unsatisfied (unsatisfied : ¬ x.Satisfied answer) :
    answer.map judge ≠ .ok .holds ∧
      Expect.settle (answer.map judge) = .error (x.received answer) := by
  rcases answer with fault | value
  · exact ⟨nofun, rfl⟩
  · have unwanted : ¬ x.wanted value := fun wanted => unsatisfied ⟨value, rfl, wanted⟩
    simp [Except.map, judged.fails value unwanted, Expect.settle, Expect.observed?, received]

end Reading.JudgedBy

namespace Validation

variable {v : Validation} {r : Runner} {inherited target : Option Target} {x : Reading}
  {page : Page σ} {w : World σ} {answer : x.call.Answer}

theorem settledBy_of_steady (looks : v.LooksAt inherited target) (reads : v.Reads target x)
    (steady : page.Steady x.call w.page answer) : v.SettledBy r inherited page w x answer := by
  obtain ⟨judge, expectation, asserts, judged⟩ := reads.asserts
  -- The evaluation is a check of this assertion, of which a single look decides.
  let a : Assertion := ⟨x.call, judge, expectation⟩
  let patience := (Expect.ofSettings r.settings).withOptions v.options
  have evaluated := evaluate_perform (r := r) looks asserts page w
  have satisfied (h : x.Satisfied answer) : (v.evaluate r inherited).run.perform page w =
      ⟨some (.ok .passed), [⟨w.now, x.call⟩], (w.answer page (.call x.call)).2⟩ := by
    have holds : (page.serve a.call w.page).answer.map a.judge = .ok .holds := by
      rw [show (page.serve a.call w.page).answer = answer from steady 0]
      exact judged.of_satisfied h
    rw [evaluated, a.check_of_holds holds patience]
    rfl
  have unsatisfied (h : ¬ x.Satisfied answer) :
      ((v.evaluate r inherited).run.perform page w).result = some (v.judge (.error
        (.assertion v.kind.name
          (.unmet expectation (x.received answer) (v.message.getD ""))))) := by
    have settled := a.check_steady steady patience
    rw [(judged.of_unsatisfied h).2] at settled
    rw [evaluated]
    exact congrArg (Option.map _) settled
  -- What is not satisfied does not pass: it is a fault, or a soft failure.
  have passes : v.Passes r inherited page w ↔ x.Satisfied answer := by
    refine ⟨fun passed => ?_, fun h => by rw [Passes, satisfied h]⟩
    by_contra h
    rw [Passes, unsatisfied h, Validation.judge] at passed
    split at passed <;> cases passed
  refine ⟨passes, fun passed => satisfied (passes.mp passed), fun failed => ?_,
    fun failed prompt positive => ?_⟩
  · exact ⟨expectation, unsatisfied (mt passes.mpr failed)⟩
  · have interval : patience.interval = r.settings.pollInterval.millis :=
      Expect.withOptions_interval ..
    rw [evaluated]
    exact a.check_prompt steady prompt (judged.of_unsatisfied (mt passes.mpr failed)).1
      (interval ▸ positive)

end Validation

theorem MemoryPage.steady (p : MemoryPage) {c : Call} (reads : c.IsReading) :
    MemoryPage.page.Steady c p (p.serve c).1 := by
  have unchanged (n : Nat) : MemoryPage.page.served c p n = p := by
    induction n with
    | zero => rfl
    | succ n ih =>
      rw [Page.served, ih]
      exact p.serve_reading reads
  intro n
  rw [unchanged]
  rfl

namespace Validation

namespace Sample

def notices : World MemoryPage where
  page := { elements := [{ key := "#note", text := "All  saved" },
    { key := "#note", text := "Lost", hidden := true }] }
  now := 30

def saysSaved : Validation :=
  { kind := .toHaveText, selector := some "#note", data := some (.string " All saved ") }

def lost : Target := ⟨.selector "#note", some 1⟩

end Sample

end Validation

end Walkthrough
