import Walkthrough.Proofs.Check.Glance
import Walkthrough.Proofs.Text.Words

/-!
Comparison by words. A validation of a title or of an element's text comes to the same verdict
whatever blanks the page shows and the document has around words, and to a failure once the words of
one side are changed.
-/
namespace Walkthrough

variable {σ α β γ δ : Type}

/-- The courses have the same calls and leave the same world, with results that are as they should
be. -/
structure Course.Parallel (same : α → β → Prop) (c : Course σ α) (d : Course σ β) : Prop where
  result : Option.Rel same c.result d.result
  calls : c.calls = d.calls
  world : c.world = d.world

namespace Play

/-- From one world on, the first play on the first page runs like the second one on the second. -/
def Parallel (page page' : Page σ) (same : α → β → Prop) (p : Play α) (q : Play β) : Prop :=
  ∀ w, Course.Parallel same (p.perform page w) (q.perform page' w)

variable {page page' : Page σ} {same : α → β → Prop} {same' : γ → δ → Prop}

theorem parallel_pure {a : α} {b : β} (h : same a b) :
    Parallel page page' same (pure a : Play α) (pure b : Play β) :=
  fun _ => ⟨.some h, rfl, rfl⟩

theorem parallel_bind {p : Play α} {q : Play β} {next : α → Play γ} {other : β → Play δ}
    (first : Parallel page page' same p q)
    (goesOn : ∀ a b, same a b → Parallel page page' same' (next a) (other b)) :
    Parallel page page' same' (p >>= next) (q >>= other) := by
  intro w
  obtain ⟨results, calls, worlds⟩ := first w
  rw [perform_bind, perform_bind]
  unfold Course.andThen
  generalize (p.perform page w).result = x at results ⊢
  generalize (q.perform page' w).result = y at results ⊢
  rw [calls, worlds]
  cases results with
  | none => exact ⟨.none, rfl, rfl⟩
  | some related =>
    obtain ⟨results', calls', worlds'⟩ := goesOn _ _ related (q.perform page' w).world
    exact ⟨results', congrArg _ calls', worlds'⟩

theorem parallel_clock_bind {next : Nat → Play α} {other : Nat → Play β}
    (h : ∀ now, Parallel page page' same (next now) (other now)) :
    Parallel page page' same (clock >>= next) (clock >>= other) :=
  fun w => h w.now w

theorem parallel_sleep_bind (ms : Nat) {next : Unit → Play α} {other : Unit → Play β}
    (h : Parallel page page' same (next ()) (other ())) :
    Parallel page page' same (sleep ms >>= next) (sleep ms >>= other) :=
  fun w => h { w with now := w.now + ms }

end Play

namespace Expect

variable {page page' : Page σ} {probe other : Play (Except PageFault Probe)}

def BothHold (x y : Except PageFault Probe) : Prop := x = .ok .holds ↔ y = .ok .holds

def BothPass (x y : Except String Unit) : Prop := x = .ok () ↔ y = .ok ()

theorem BothHold.observed? {x y : Except PageFault Probe} (h : BothHold x y) :
    (Expect.observed? x = none ∧ Expect.observed? y = none) ∨
      ∃ s t, Expect.observed? x = some s ∧ Expect.observed? y = some t := by
  rw [BothHold, ← observed?_eq_none_iff, ← observed?_eq_none_iff] at h
  cases first : Expect.observed? x with
  | none => exact .inl ⟨rfl, h.mp first⟩
  | some s =>
    have fails : Expect.observed? y ≠ none := fun none => by simp [h.mpr none] at first
    obtain ⟨t, second⟩ := Option.ne_none_iff_exists'.mp fails
    exact .inr ⟨s, t, rfl, second⟩

theorem parallel_waitOr (deadline interval : Nat) (observed observed' : String)
    {again once : Play (Except String Unit)} (h : again.Parallel page page' BothPass once) :
    (waitOr deadline interval observed again).Parallel page page' BothPass
      (waitOr deadline interval observed' once) := by
  refine Play.parallel_clock_bind fun now => ?_
  split
  · exact Play.parallel_pure (by simp [BothPass])
  · exact Play.parallel_sleep_bind _ h

theorem parallel_probeUntil (deadline interval : Nat)
    (h : probe.Parallel page page' BothHold other) (rounds : Nat) :
    (probeUntil deadline interval probe rounds).Parallel page page' BothPass
      (probeUntil deadline interval other rounds) := by
  induction rounds with
  | zero =>
    refine Play.parallel_bind h fun x y both => ?_
    rcases both.observed? with ⟨first, second⟩ | ⟨_, _, first, second⟩ <;> simp only [first, second]
    · exact Play.parallel_pure Iff.rfl
    · exact Play.parallel_pure (by simp [BothPass])
  | succ rounds ih =>
    refine Play.parallel_bind h fun x y both => ?_
    rcases both.observed? with ⟨first, second⟩ | ⟨_, _, first, second⟩ <;> simp only [first, second]
    · exact Play.parallel_pure Iff.rfl
    · exact parallel_waitOr deadline interval _ _ ih

theorem parallel_poll (e : Expect) (h : probe.Parallel page page' BothHold other) :
    (e.poll probe).Parallel page page' BothPass (e.poll other) :=
  Play.parallel_clock_bind fun now => parallel_probeUntil (now + e.timeout) e.interval h e.rounds

end Expect

def ValueKind.rewrite (f : String → String) : (k : ValueKind) → k.Value → k.Value
  | .text => f
  | .optionalText => Option.map f
  | .nothing | .number | .flag | .data => id

def Page.rewritten (page : Page σ) (f : σ → Call → String → String) : Page σ where
  serve c p :=
    let s := page.serve c p
    { s with answer := s.answer.map (c.kind.rewrite (f p c)) }

/-- What is rewritten are blanks alone. -/
def OnlyBlanks (f : σ → Call → String → String) : Prop :=
  ∀ p c text, Text.Respaces text (f p c text)

theorem Assertion.sameWords_holds_iff {expected actual : String} :
    sameWords expected actual = .holds ↔ Text.squeeze actual = Text.squeeze expected := by
  unfold sameWords Probe.ofBool
  split <;> simp_all

def Assertion.JudgeAlike {c : Call} (judge judge' : c.Value → Probe) : Prop :=
  ∀ f : String → String, (∀ text, Text.Respaces text (f text)) → ∀ value,
    judge value = .holds ↔ judge' (c.kind.rewrite f value) = .holds

theorem Assertion.parallel_check {c : Call} {judge judge' : c.Value → Probe}
    {f : σ → Call → String → String} (blanks : OnlyBlanks f) (alike : JudgeAlike judge judge')
    (page : Page σ) (expectation expectation' : String) (e : Expect) :
    (Assertion.check ⟨c, judge, expectation⟩ e).Parallel page (page.rewritten f) Expect.BothPass
      (Assertion.check ⟨c, judge', expectation'⟩ e) := by
  refine Expect.parallel_poll e fun w => ?_
  rw [perform_probe, perform_probe]
  refine ⟨.some ?_, rfl, rfl⟩
  change Expect.BothHold ((page.serve c w.page).answer.map judge)
    (((page.serve c w.page).answer.map (c.kind.rewrite (f w.page c))).map judge')
  cases (page.serve c w.page).answer with
  | error fault => simp [Expect.BothHold, Except.map]
  | ok value => simpa [Expect.BothHold, Except.map] using alike _ (blanks w.page c) value

namespace Validation

def ComparesWords (v : Validation) : Prop := v.kind = .toHaveTitle ∨ v.kind = .toHaveText

def withData (v : Validation) (data : Option Json) : Validation := { v with data }

variable {v : Validation} {data : Option Json}

theorem ComparesWords.assertions (compares : v.ComparesWords)
    (respaces : Text.Respaces v.dataText (v.withData data).dataText) (target : Option Target) :
    (∃ fault, v.assertion? target = .error fault ∧
      (v.withData data).assertion? target = .error fault) ∨
    ∃ (c : Call) (judge judge' : c.Value → Probe) (expectation expectation' : String),
      v.assertion? target = .ok (some ⟨c, judge, expectation⟩) ∧
      (v.withData data).assertion? target = .ok (some ⟨c, judge', expectation'⟩) ∧
      Assertion.JudgeAlike judge judge' := by
  have expected := respaces.squeeze_eq
  rcases compares with kind | kind
  · refine .inr ⟨.title, _, _, _, _, by simp only [assertion?, kind]; rfl,
      by simp only [assertion?, withData, kind]; rfl, fun f blanks text => ?_⟩
    have shown := (blanks text).squeeze_eq
    rw [Assertion.sameWords_holds_iff, Assertion.sameWords_holds_iff, expected, shown]
    rfl
  · cases target with
    | none =>
      refine .inl ⟨.missingSelector v.kind.name, ?_, ?_⟩
      · simp only [assertion?, kind, requireTarget]
        rfl
      · simp only [assertion?, withData, kind, requireTarget]
        rfl
    | some t =>
      refine .inr ⟨.textContent t, _, _, _, _, by simp only [assertion?, kind]; rfl,
        by simp only [assertion?, withData, kind]; rfl, fun f blanks text => ?_⟩
      have shown : Text.squeeze (text.getD "") = Text.squeeze ((text.map f).getD "") := by
        cases text with
        | none => rfl
        | some text => exact (blanks text).squeeze_eq
      rw [Assertion.sameWords_holds_iff, Assertion.sameWords_holds_iff, expected, shown]
      rfl

/-- The evaluations come to the same, but for the message of a failure. -/
inductive SameVerdict : Except StepFault Verdict → Except StepFault Verdict → Prop where
  | same (x : Except StepFault Verdict) : SameVerdict x x
  | softFailed {kind message message' : String} :
      SameVerdict (.ok (.softFailed ⟨kind, message⟩)) (.ok (.softFailed ⟨kind, message'⟩))
  | failed {kind : String} {cause cause' : AssertionCause} :
      SameVerdict (.error (.assertion kind cause)) (.error (.assertion kind cause'))

theorem sameVerdict_judge (v : Validation) (kind : String) (cause cause' : AssertionCause) :
    SameVerdict (v.judge (.error (.assertion kind cause)))
      (v.judge (.error (.assertion kind cause'))) := by
  unfold judge
  cases v.soft with
  | true => exact .softFailed
  | false => exact .failed

theorem ComparesWords.evaluate_parallel (compares : v.ComparesWords)
    (respaces : Text.Respaces v.dataText (v.withData data).dataText)
    {f : σ → Call → String → String} (blanks : OnlyBlanks f) (r : Runner)
    (inherited : Option Target) (page : Page σ) :
    (v.evaluate r inherited).run.Parallel page (page.rewritten f) SameVerdict
      ((v.withData data).evaluate r inherited).run := by
  cases resolved : v.selection.target? with
  | error fault =>
    have resolved' : (v.withData data).selection.target? = .error fault := resolved
    simp only [evaluate, resolved, resolved']
    exact Play.parallel_pure (.same _)
  | ok own =>
    have resolved' : (v.withData data).selection.target? = .ok own := resolved
    rw [evaluate_run resolved, evaluate_run resolved']
    rcases compares.assertions respaces (own.or inherited) with ⟨fault, lacks, lacks'⟩ |
      ⟨c, judge, judge', expectation, expectation', asserts, asserts', alike⟩
    · have fails : v.check r (v.scopeIn r own inherited) = throw fault :=
        check_of_assertion?_error lacks
      have fails' : (v.withData data).check r ((v.withData data).scopeIn r own inherited) =
          throw fault := check_of_assertion?_error lacks'
      rw [fails, fails']
      exact Play.parallel_pure (.same _)
    · have checked : (v.check r (v.scopeIn r own inherited)).run = _ := check_run asserts
      have checked' : ((v.withData data).check r ((v.withData data).scopeIn r own inherited)).run =
          _ := check_run asserts'
      rw [checked, checked', bind_assoc, bind_assoc]
      refine Play.parallel_bind (Assertion.parallel_check blanks alike page _ _ _)
        fun x y both => ?_
      rw [pure_bind, pure_bind]
      refine Play.parallel_pure ?_
      rcases x with observed | _ <;> rcases y with observed' | _
      · exact sameVerdict_judge ..
      · simp [Expect.BothPass] at both
      · simp [Expect.BothPass] at both
      · exact .same _

inductive Sees (v : Validation) (inherited : Option Target) (page : Page σ) (p : σ) :
    String → Prop where
  | title {target : Option Target} {text : String} (kind : v.kind = .toHaveTitle)
      (looks : v.LooksAt inherited target) (steady : page.Steady .title p (.ok text)) :
      Sees v inherited page p text
  | text {t : Target} {text : Option String} (kind : v.kind = .toHaveText)
      (looks : v.LooksAt inherited (some t)) (steady : page.Steady (.textContent t) p (.ok text)) :
      Sees v inherited page p (text.getD "")

def Fails (v : Validation) (r : Runner) (inherited : Option Target) (page : Page σ)
    (w : World σ) : Prop :=
  ∃ cause, ((v.evaluate r inherited).run.perform page w).result =
    some (v.judge (.error (.assertion v.kind.name cause)))

theorem Sees.settled {inherited : Option Target} {page : Page σ} {w : World σ} {text : String}
    (sees : v.Sees inherited page w.page text) (r : Runner) :
    (v.Passes r inherited page w ↔ Text.squeeze text = Text.squeeze v.dataText) ∧
      (¬ v.Passes r inherited page w → v.Fails r inherited page w) := by
  cases sees with
  | title kind looks steady =>
    have settled := settledBy_of_steady (r := r) looks (.title kind) steady
    refine ⟨settled.passes_iff.trans ?_, fun failed => ?_⟩
    · simp [Reading.Satisfied]
    · obtain ⟨_, result⟩ := settled.fails failed
      exact ⟨_, result⟩
  | text kind looks steady =>
    have settled := settledBy_of_steady (r := r) looks (.text kind) steady
    refine ⟨settled.passes_iff.trans ?_, fun failed => ?_⟩
    · simp [Reading.Satisfied]
    · obtain ⟨_, result⟩ := settled.fails failed
      exact ⟨_, result⟩

/-- Equal words are what a squeezed text keeps and what the validations compare. Other blanks, in
the texts of the page or in the data, leave all as it is; other words on one side make what passes
fail. -/
theorem words_decide :
    (∀ s : String, ∃! ws, Text.Spaced s.toList ws) ∧
    (∀ s t : String, Text.squeeze s = Text.squeeze t ↔
      ∃ ws, Text.Spaced s.toList ws ∧ Text.Spaced t.toList ws) ∧
    (∀ s : String, Text.squeeze (Text.squeeze s) = Text.squeeze s ∧
      Text.Tidy (Text.squeeze s).toList) ∧
    (∀ {σ : Type} (v : Validation) (data : Option Json) (r : Runner) (inherited : Option Target)
      (page : Page σ) (f : σ → Call → String → String), v.ComparesWords →
      Text.Respaces v.dataText (v.withData data).dataText → OnlyBlanks f →
      (v.evaluate r inherited).run.Parallel page (page.rewritten f) SameVerdict
        ((v.withData data).evaluate r inherited).run) ∧
    ∀ {σ τ : Type} (v : Validation) (data : Option Json) (r : Runner) (inherited : Option Target)
      (page : Page σ) (page' : Page τ) (w : World σ) (w' : World τ) (text text' : String),
      v.Sees inherited page w.page text → (v.withData data).Sees inherited page' w'.page text' →
      v.Passes r inherited page w →
      (Text.Rewords text text' ∧ Text.Respaces v.dataText (v.withData data).dataText ∨
        Text.Respaces text text' ∧ Text.Rewords v.dataText (v.withData data).dataText) →
      ¬ (v.withData data).Passes r inherited page' w' ∧
        (v.withData data).Fails r inherited page' w' := by
  refine ⟨fun s => ?_, fun s t => ?_, fun s => ⟨Text.squeeze_squeeze s, Text.tidy_squeeze s⟩,
    fun v data r inherited page f compares respaces blanks =>
      compares.evaluate_parallel respaces blanks r inherited page, ?_⟩
  · exact ⟨_, Text.spaced_words s.toList, fun ws h => h.words_eq.symm⟩
  · rw [Text.squeeze_eq_iff]
    constructor
    · intro same
      exact ⟨_, Text.spaced_words s.toList, same ▸ Text.spaced_words t.toList⟩
    · rintro ⟨ws, first, second⟩
      rw [first.words_eq, second.words_eq]
  · intro σ τ v data r inherited page page' w w' text text' sees sees' passes changed
    have same := (sees.settled r).1.mp passes
    have other : Text.squeeze text' ≠ Text.squeeze (v.withData data).dataText := by
      rcases changed with ⟨rewords, respaces⟩ | ⟨respaces, rewords⟩
      · rw [← respaces.squeeze_eq, ← same]
        exact rewords.squeeze_ne.symm
      · rw [← respaces.squeeze_eq, same]
        exact rewords.squeeze_ne
    have fails := mt (sees'.settled r).1.mp other
    exact ⟨fails, (sees'.settled r).2 fails⟩

namespace Sample

def indented : MemoryPage → Call → String → String := fun _ _ text => "\n" ++ text

def notYet : World MemoryPage where
  page := { elements := [{ key := "#note", text := "All not saved" }] }

theorem notices_compared :
    (saysSaved.ComparesWords ∧ Text.Respaces saysSaved.dataText "All saved" ∧
      OnlyBlanks indented ∧
      (saysSaved.evaluate {} none).run.Parallel MemoryPage.page (MemoryPage.page.rewritten indented)
        SameVerdict ((saysSaved.withData (some (.string "All saved"))).evaluate {} none).run) ∧
    saysSaved.Sees none MemoryPage.page notices.page "All  saved" ∧
      saysSaved.Passes {} none MemoryPage.page notices ∧
      saysSaved.Sees none MemoryPage.page notYet.page "All not saved" ∧
      Text.Rewords "All  saved" "All not saved" ∧
      saysSaved.Fails {} none MemoryPage.page notYet := by
  have blanks : OnlyBlanks indented := by
    intro _ _ text
    have front : Text.Respaced ([] ++ text.toList) (['\n'] ++ text.toList) :=
      .front nofun (by simp [Text.Blank, Text.isBlank])
    have written : ("\n" ++ text).toList = ['\n'] ++ text.toList := String.toList_append
    exact .single (written ▸ front)
  have respaces : Text.Respaces " All saved " "All saved" := by
    have front : Text.Respaced ([' '] ++ "All saved ".toList) ([] ++ "All saved ".toList) :=
      .front (by simp [Text.Blank, Text.isBlank]) nofun
    have back : Text.Respaced ("All saved".toList ++ [' ']) ("All saved".toList ++ []) :=
      .back (by simp [Text.Blank, Text.isBlank]) nofun
    exact .tail (.single front) back
  have looks : saysSaved.LooksAt none (some ⟨.selector "#note", none⟩) := .own rfl (by decide) rfl
  have sees : saysSaved.Sees none MemoryPage.page notices.page ((some "All  saved").getD "") :=
    .text rfl looks (notices.page.steady (c := .textContent _) trivial)
  have sees' : saysSaved.Sees none MemoryPage.page notYet.page ((some "All not saved").getD "") :=
    .text rfl looks (notYet.page.steady (c := .textContent _) trivial)
  have passes : saysSaved.Passes {} none MemoryPage.page notices :=
    (sees.settled {}).1.mpr (by decide)
  have added : Text.Reworded (["All".toList] ++ ["saved".toList])
      (["All".toList] ++ "not".toList :: ["saved".toList]) := .added
  have rewords : Text.Rewords "All  saved" "All not saved" :=
    ⟨_, _, Text.spaced_iff.mpr (by decide), Text.spaced_iff.mpr (by decide), added⟩
  obtain ⟨-, -, -, alike, differs⟩ := words_decide
  refine ⟨⟨.inr rfl, respaces, blanks, alike saysSaved (some (.string "All saved")) {} none _ _
    (.inr rfl) respaces blanks⟩, sees, passes, sees', rewords, ?_⟩
  exact (differs saysSaved saysSaved.data {} none _ _ notices notYet _ _ sees sees' passes
    (.inl ⟨rewords, .refl⟩)).2

end Sample

end Validation

end Walkthrough
