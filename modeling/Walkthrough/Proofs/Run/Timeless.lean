import Walkthrough.Batch
import Walkthrough.Proofs.Play.Later
import Walkthrough.Proofs.Run.Custody

/-!
Runs do not depend on when they begin: on pages that behave alike they make the same calls and have
the same reports, times and identifiers aside, as long as handlers use the clock for no more than
measuring and draw no conclusions from identifiers.
-/
namespace Walkthrough

def StepEntry.untimed (e : StepEntry) : StepEntry :=
  { e with startTime := .ofMillis 0, endTime := .ofMillis 0, durationMs := 0 }

/-- The report without its identifier, its times and its durations. -/
def RunReport.bare (report : RunReport) : RunReport :=
  { report with
    runId := .ofRandom 0, startTime := .ofMillis 0, endTime := .ofMillis 0, durationMs := 0,
    steps := report.steps.map StepEntry.untimed }

def BatchReport.bare (report : BatchReport) : BatchReport :=
  { report with runs := report.runs.map RunReport.bare }

@[simp] theorem RunReport.bare_passed (report : RunReport) :
    report.bare.passed = report.passed := rfl

theorem BatchReport.bare_ofRuns (runs : List RunReport) :
    (BatchReport.ofRuns runs).bare = .ofRuns (runs.map RunReport.bare) := by
  simp [BatchReport.ofRuns, bare, Function.comp_def]

theorem Step.entry_untimed (s : Step) (position start finish start' finish' : Nat)
    (c : StepCourse) : (s.entry position start finish c).untimed =
      (s.entry position start' finish' c).untimed := rfl

theorem RunReport.ofEntries_bare {entries entries' : List StepEntry}
    (same : entries.map StepEntry.untimed = entries'.map StepEntry.untimed) (id id' : RunId)
    (description : String) (start finish start' finish' : Nat) (outcome : Outcome) :
    (ofEntries id description start finish outcome entries).bare =
      (ofEntries id' description start' finish' outcome entries').bare := by
  have passes : entries.all (·.status == .passed) = entries'.all (·.status == .passed) := by
    simpa [StepEntry.untimed, Function.comp_def] using
      congrArg (·.all (·.status == .passed)) same
  simp only [ofEntries, bare, passes, same]

/-- The handlers do the same whenever they are called, as much later as they were. -/
def Registry.Timeless (r : Registry) : Prop := ∀ k, r.Related (fun p q => p.Later k Eq q) r

def Called.Timeless : Called → Prop
  | .action s handler => ∀ k, (handler s).run.Later k Eq (handler s).run
  | .validation v scope handler => ∀ k, (handler v scope).run.Later k Eq (handler v scope).run

/-- All handlers do so that the registry has for the test case. -/
def TestCase.Timeless (c : TestCase) (r : Registry) : Prop :=
  ∀ called, Called.Of c.steps r called → called.Timeless

theorem Play.later_congruence (k : Nat) : Play.Congruence fun p q => p.Later k Eq q where
  done _ := Play.later_pure rfl
  bind first goesOn := Play.later_bind first fun a _ eq => eq ▸ goesOn a
  call _ _ := .ask fun _ _ eq => eq ▸ Play.later_pure rfl
  limited limit _ _ h := Play.later_limited limit h
  poll e _ _ h := Expect.later_poll e h

theorem Registry.builtin_timeless : Registry.builtin.Timeless :=
  fun k => builtin_parametric (Play.later_congruence k)

section

variable {r : Runner} (timeless : r.registry.Timeless) (k : Nat)

include timeless

theorem Step.runAll_later (position : Nat) (steps : List Step) :
    (Step.runAll r position steps).Later k
      (fun ran ran' => ran.1.map StepEntry.untimed = ran'.1.map StepEntry.untimed ∧ ran.2 = ran'.2)
      (Step.runAll r position steps) := by
  induction steps generalizing position with
  | nil => exact Play.later_pure ⟨rfl, rfl⟩
  | cons s rest ih =>
    refine Play.later_clock_bind fun start => ?_
    refine Play.later_bind ((Play.later_congruence k).drive (timeless k) s) ?_
    rintro course _ rfl
    refine Play.later_clock_bind fun finish => ?_
    have this := s.entry_untimed position start finish (start + k) (finish + k) course
    dsimp only
    split
    · exact Play.later_pure ⟨by simp [this], rfl⟩
    · refine Play.later_bind (ih (position + 1)) ?_
      rintro ran ran' ⟨entries, outcome⟩
      exact Play.later_pure ⟨by simp [this, entries], outcome⟩

namespace TestCase

theorem runHere_later (c : TestCase) :
    (c.runHere r).run.Later k (fun x y => x.map RunReport.bare = y.map RunReport.bare)
      (c.runHere r).run := by
  simp only [runHere]
  split
  · exact Play.later_pure rfl
  · simp only [ExceptT.run_bind, Attempt.run_ofPlay, bind_assoc, pure_bind, ExceptT.run_pure]
    refine Play.later_newId_bind fun id id' => Play.later_clock_bind fun start => ?_
    refine Play.later_bind (Step.runAll_later timeless k 0 c.steps) ?_
    rintro ⟨entries, outcome⟩ ⟨entries', _⟩ ⟨same, rfl⟩
    refine Play.later_clock_bind fun finish => Play.later_pure ?_
    exact congrArg Except.ok (RunReport.ofEntries_bare same ..)

theorem runInBatch_later (c : TestCase) :
    (c.runInBatch r).Later k (fun x y => x.bare = y.bare) (c.runInBatch r) := by
  have run : (c.run r).run.Later k (fun x y => x.map RunReport.bare = y.map RunReport.bare)
      (c.run r).run := by
    simp only [TestCase.run, ExceptT.run_bind, Attempt.run_ofPlay, bind_assoc, pure_bind]
    exact .ask fun _ _ _ => runHere_later timeless k c
  refine Play.later_bind run fun x y same => ?_
  cases x with
  | ok report =>
    cases y with
    | ok other => exact Play.later_pure (Except.ok.inj same)
    | error f => cases same
  | error f =>
    cases y with
    | ok other => cases same
    | error g =>
      obtain rfl : f = g := Except.error.inj same
      exact Play.later_newId_bind fun _ _ => Play.later_clock_bind fun _ => Play.later_pure rfl

theorem runAndClose_later (c : TestCase) :
    (c.runAndClose r).Later k (fun x y => x.bare = y.bare) (c.runAndClose r) :=
  Play.later_bind (runInBatch_later timeless k c) fun _ _ same =>
    Play.later_bind (.ask fun _ _ eq => Play.later_pure eq) fun _ _ _ => Play.later_pure same

end TestCase

end

theorem Registry.Timeless.case {r : Registry} (timeless : r.Timeless) (c : TestCase) :
    c.Timeless r := by
  intro called of
  cases of with
  | @action s handler _ _ found => exact fun k => (timeless k).action_of_found found s
  | @validation s v scope handler _ _ _ found =>
    exact fun k => (timeless k).validation_of_found found v scope

open Classical in
/-- The registry with handlers that do nothing but what they do for the test case. -/
noncomputable def Registry.only (r : Registry) (c : TestCase) : Registry where
  actions := r.actions.map <| Prod.map id fun h s =>
    if Called.Of c.steps r (.action s h) then h s else pure ()
  validations := r.validations.map <| Prod.map id fun h v scope =>
    if Called.Of c.steps r (.validation v scope h) then h v scope else pure ()

namespace Registry

variable (r : Registry) (c : TestCase)

open Classical in
theorem only_action? (name : String) : (r.only c).action? name = (r.action? name).map fun h s =>
    if Called.Of c.steps r (.action s h) then h s else pure () := lookup_map _ name r.actions

open Classical in
theorem only_validation? (name : String) : (r.only c).validation? name =
    (r.validation? name).map fun h v scope =>
      if Called.Of c.steps r (.validation v scope h) then h v scope else pure () :=
  lookup_map _ name r.validations

theorem only_namesIn : (r.only c).NamesIn r where
  action name none := by rw [only_action?, none, Option.map_none]
  validation name none := by rw [only_validation?, none, Option.map_none]

variable {r c}

theorem alsoIn_only {called : Called} (of : called.Of c.steps r) : called.AlsoIn (r.only c) := by
  have same := of
  cases of with
  | action _ _ found =>
    refine ⟨_, by rw [only_action?, found, Option.map_some], ?_⟩
    exact if_pos same
  | validation _ _ _ found =>
    refine ⟨_, by rw [only_validation?, found, Option.map_some], ?_⟩
    exact if_pos same

theorem only_timeless (timeless : c.Timeless r) : (r.only c).Timeless := by
  intro k
  refine related_self (fun name h found s => ?_) fun name h found v scope => ?_
  · rw [only_action?] at found
    obtain ⟨own, -, rfl⟩ := Option.map_eq_some_iff.mp found
    dsimp only
    split
    · rename_i of
      exact timeless _ of k
    · exact Play.later_pure rfl
  · rw [only_validation?] at found
    obtain ⟨own, -, rfl⟩ := Option.map_eq_some_iff.mp found
    dsimp only
    split
    · rename_i of
      exact timeless _ of k
    · exact Play.later_pure rfl

end Registry

namespace TestCase

variable {σ : Type}

theorem course_only (c : TestCase) (r : Runner) (page : Page σ) (w : World σ) :
    c.course (r.withRegistry (r.registry.only c)) page w = c.course r page w :=
  have invokes : Play.Invokes r page (r.registry.only c) _ (c.runHere r).run _ _ :=
    c.runHere_invokes (r.registry.only_namesIn c)
  invokes.only w fun i member => Registry.alsoIn_only (invokes.who w i member)

theorem course_later {c : TestCase} {r : Runner} (timeless : c.Timeless r.registry)
    {page : Page σ} {R : σ → σ → Prop} (alike : page.Bisimulation R) {k : Nat} {w v : World σ}
    (worlds : w.Later k R v) :
    (c.course r page w).Later k R (fun x y => x.map RunReport.bare = y.map RunReport.bare)
      (c.course r page v) := by
  have plays := runHere_later (r := r.withRegistry (r.registry.only c))
    (Registry.only_timeless timeless) k c
  rw [← c.course_only r page w, ← c.course_only r page v]
  exact plays.perform alike worlds

end TestCase

end Walkthrough
