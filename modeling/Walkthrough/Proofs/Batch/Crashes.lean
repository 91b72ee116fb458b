import Walkthrough.Proofs.Batch.Lifetime
import Walkthrough.Proofs.Batch.Reports
import Walkthrough.Proofs.Run.Tamed

/-!
Handlers that crash in a batch. Where cases have pages of their own the others do not notice, but
the page of the case itself is left open. Where they share a page the batch has no report at all,
and that page is left open.
-/
namespace Walkthrough

variable {σ : Type}

def Runner.tamed (trouble : Trouble) (r : Runner) : Runner :=
  r.withRegistry (r.registry.tamed trouble)

namespace Batch

variable {page : Page σ} {r : Runner}

theorem visit_tamed (trouble : Trouble) {opened : Except Trouble σ} {i start : Nat}
    {c : TestCase} {run : RunReport} {session : Session σ}
    (visited : visit page opened r i start c = (some run, session)) :
    turn page opened (r.tamed trouble) i start c = (run, session) := by
  rw [turn_eq_visit]
  suffices same : visit page opened (r.tamed trouble) i start c = (some run, session) by
    simp only [same, Option.getD_some]
  cases opened with
  | error t => exact visited
  | ok state =>
    have survives := c.runAndClose_survives (r.registry.survives_tamed trouble)
    obtain ⟨ended, -⟩ := Prod.mk.inj visited
    have same := survives.perform page { page := state, now := start, ids := i } (by simp [ended])
    simp only [visit, Runner.tamed, same]
    exact visited

namespace Plan

/-- What crashes cost a batch of cases with pages of their own. -/
structure Contains (p : Plan σ) (s : Progress σ) (trouble : Trouble) (time : Nat)
    (report : BatchReport) : Prop where
  reports : p.Reports s report
  /-- The other cases run as if the handlers that crash had failed. -/
  others : ∀ (i : Nat) c run session, p.cases[i]? = some c →
    s.stages[i]? = some (.finished (some run) session) → report.runs[i]? = some run ∧
      ∃ number start, s.asked[number]? = some i ∧
        turn p.page (p.opener number) (p.runner.tamed trouble) i start c = (run, session)
  /-- A case that crashed is said to, and its page gets no more calls than its run had made. -/
  crashed : ∀ (i : Nat) c session, p.cases[i]? = some c →
    s.stages[i]? = some (.finished none session) →
      report.runs[i]? = some (.ofCrash (.ofRandom i) time c) ∧
      ∃ (number : Nat) (w : World σ), s.asked[number]? = some i ∧ p.opener number = .ok w.page ∧
        (c.freshCourse p.runner p.page w).result = none ∧
        session.calls = (c.freshCourse p.runner p.page w).calls
  unclosed : p.runner.registry.LeavesOpen → ∀ (i : Nat) c session, p.cases[i]? = some c →
    s.stages[i]? = some (.finished none session) → ∀ call ∈ session.calls, call.call ≠ .close

theorem Sound.crash {p : Plan σ} {s : Progress σ} (sound : p.Sound s) {i : Nat} {c : TestCase}
    {session : Session σ} (case : p.cases[i]? = some c)
    (at_ : s.stages[i]? = some (.finished none session)) :
    ∃ (number : Nat) (w : World σ), s.asked[number]? = some i ∧ p.opener number = .ok w.page ∧
      (c.freshCourse p.runner p.page w).result = none ∧
      session.calls = (c.freshCourse p.runner p.page w).calls := by
  obtain ⟨number, start, found, visited⟩ := sound.reached i c _ case at_
  cases opened : p.opener number with
  | error trouble =>
    simp only [visit, opened] at visited
    cases (Prod.mk.inj visited).1
  | ok state =>
    simp only [visit, opened] at visited
    obtain ⟨crashed, rfl⟩ := Prod.mk.inj visited
    exact ⟨number, _, found, opened, (c.runAndClose_result_eq_none_iff ..).mp crashed,
      c.runAndClose_calls_of_crash _ _ _ crashed⟩

theorem Sound.contains {p : Plan σ} {s : Progress σ} (sound : p.Sound s)
    (finished : s.finished = true) (trouble : Trouble) (time : Nat) :
    ∃ report, p.report? s time = some report ∧ p.Contains s trouble time report := by
  obtain ⟨runs, told, -, run⟩ := sound.report finished time
  refine ⟨_, told, sound.reports told, ?_, ?_, ?_⟩
  · intro i c report session case at_
    obtain ⟨number, start, found, visited⟩ := sound.reached i c _ case at_
    exact ⟨run i c _ session case at_, number, start, found, visit_tamed trouble visited⟩
  · exact fun i c session case at_ => ⟨run i c _ session case at_, sound.crash case at_⟩
  · intro leaves i c session case at_
    obtain ⟨number, w, -, -, -, calls⟩ := sound.crash case at_
    rw [calls]
    exact (c.run_open leaves).calls_open p.page w

end Plan

theorem runInTurn_cons_perform (page : Page σ) (r : Runner) (c : TestCase)
    (rest : List TestCase) (w : World σ) :
    (runInTurn r (c :: rest)).perform page w =
      let first := (c.runInBatch r).perform page w
      match first.result with
      | none => ⟨none, first.calls, first.world⟩
      | some report =>
        let later := (runInTurn r rest).perform page first.world
        ⟨later.result.map (report :: ·), first.calls ++ later.calls, later.world⟩ := by
  rw [runInTurn, Play.perform_bind]
  unfold Course.andThen
  dsimp only
  split <;> rename_i ended <;> simp only [ended]
  rw [Play.perform_bind_pure]

theorem runInTurn_eq_none_iff (page : Page σ) (r : Runner) (cases : List TestCase) (w : World σ) :
    ((runInTurn r cases).perform page w).result = none ↔
      ∃ before c after, cases = before ++ c :: after ∧
        ((runInTurn r before).perform page w).result ≠ none ∧
        (c.freshCourse r page ((runInTurn r before).perform page w).world).result = none := by
  induction cases generalizing w with
  | nil =>
    constructor
    · nofun
    · rintro ⟨before, c, after, split, -⟩
      simp at split
  | cons first rest ih =>
    cases ended : ((first.runInBatch r).perform page w).result with
    | none =>
      have crashed := (first.runInBatch_result_eq_none_iff r page w).mp ended
      refine iff_of_true ?_ ⟨[], first, rest, rfl, nofun, crashed⟩
      simp only [runInTurn_cons_perform, ended]
    | some report =>
      have goesOn : ∀ others, (runInTurn r (first :: others)).perform page w =
          let d := (first.runInBatch r).perform page w
          let e := (runInTurn r others).perform page d.world
          ⟨e.result.map (report :: ·), d.calls ++ e.calls, e.world⟩ := by
        intro others
        simp only [runInTurn_cons_perform, ended]
      rw [goesOn, Option.map_eq_none_iff, ih]
      constructor
      · rintro ⟨before, c, after, rfl, through, crashed⟩
        refine ⟨first :: before, c, after, rfl, ?_⟩
        rw [goesOn]
        exact ⟨by simpa using through, crashed⟩
      · rintro ⟨before, c, after, split, through, crashed⟩
        cases before with
        | nil =>
          obtain ⟨rfl, rfl⟩ := List.cons.inj split
          rw [← TestCase.runInBatch_result_eq_none_iff] at crashed
          cases ended.symm.trans crashed
        | cons other before =>
          obtain ⟨rfl, rfl⟩ := List.cons.inj split
          rw [goesOn] at through crashed
          exact ⟨before, c, after, rfl, by simpa using through, crashed⟩

theorem runAllAndClose_perform (page : Page σ) (r : Runner) (cases : List TestCase)
    (w : World σ) :
    (runAllAndClose r cases).perform page w =
      let turns := (runInTurn r cases).perform page w
      match turns.result with
      | none => ⟨none, turns.calls, turns.world⟩
      | some reports => ⟨some reports, turns.calls ++ [⟨turns.world.now, .close⟩],
          (turns.world.answer page (.call .close)).2⟩ := by
  rw [runAllAndClose, Play.perform_bind]
  unfold Course.andThen
  dsimp only
  split <;> rename_i ended <;> simp only [ended]
  rfl

/-- What crashes cost a batch of cases that share a page. -/
structure Loses (page : Page σ) (opener : Opener σ) (r : Runner) (cases : List TestCase)
    (trouble : Trouble) : Prop where
  kept : ∀ report, (shared page opener r cases).report = some report →
    shared page opener (r.tamed trouble) cases = shared page opener r cases
  lost : (shared page opener r cases).report = none ↔ ∃ state before c after,
    opener 0 = .ok state ∧ cases = before ++ c :: after ∧
      ((runInTurn r before).perform page { page := state }).result ≠ none ∧
      (c.freshCourse r page ((runInTurn r before).perform page { page := state }).world).result =
        none
  unclosed : (shared page opener r cases).report = none → r.registry.LeavesOpen →
    ∀ session ∈ (shared page opener r cases).sessions, ∀ call ∈ session.calls, call.call ≠ .close

theorem runAllAndClose_result_eq_none_iff (page : Page σ) (r : Runner) (cases : List TestCase)
    (w : World σ) : ((runAllAndClose r cases).perform page w).result = none ↔
      ((runInTurn r cases).perform page w).result = none := by
  rw [runAllAndClose_perform]
  dsimp only
  split <;> rename_i ended <;> simp [ended]

theorem shared_loses (page : Page σ) (opener : Opener σ) (r : Runner) (cases : List TestCase)
    (trouble : Trouble) : Loses page opener r cases trouble := by
  cases opened : opener 0 with
  | error t =>
    have reported : (shared page opener r cases).report ≠ none := by simp [shared, opened]
    constructor
    case kept => exact fun report _ => by simp only [shared, opened]
    case lost =>
      refine iff_of_false reported ?_
      rintro ⟨state, before, c, after, other, -⟩
      cases opened.symm.trans other
    case unclosed => exact fun none => absurd none reported
  | ok state =>
    have result : (shared page opener r cases).report =
        ((runAllAndClose r cases).perform page { page := state }).result.map .ofRuns := by
      simp only [shared, opened]
    constructor
    case kept =>
      intro report reported
      have survives := runAllAndClose_survives (r.registry.survives_tamed trouble) cases
      have ends : ((runAllAndClose r cases).perform page { page := state }).result ≠ none := by
        intro none
        simp [result, none] at reported
      have same := survives.perform page { page := state } ends
      simp only [shared, opened, Runner.tamed, same]
    case lost =>
      rw [result, Option.map_eq_none_iff, runAllAndClose_result_eq_none_iff, runInTurn_eq_none_iff]
      constructor
      · rintro ⟨before, c, after, split, crash⟩
        exact ⟨state, before, c, after, opened, split, crash⟩
      · rintro ⟨other, before, c, after, opened', split, crash⟩
        cases opened.symm.trans opened'
        exact ⟨before, c, after, split, crash⟩
    case unclosed =>
      intro none leaves
      rw [result, Option.map_eq_none_iff, runAllAndClose_result_eq_none_iff] at none
      have calls : ((runAllAndClose r cases).perform page { page := state }).calls =
          ((runInTurn r cases).perform page { page := state }).calls := by
        simp only [runAllAndClose_perform, none]
      simp only [shared, opened, List.forall_mem_singleton, calls]
      exact (runInTurn_open leaves cases).calls_open page _

/-- A crash of a handler costs the report of its own case, where cases have pages of their own, and
that of the batch, where they share one; either way the page of the case that crashed is not
closed. -/
theorem crash_costs (page : Page σ) (opener : Opener σ) (r : Runner) (cases : List TestCase)
    (trouble : Trouble) :
    (∀ parallel fits moves time, let p := Plan.isolated page opener r parallel cases fits
      (p.run moves).finished = true → ∃ report, p.report? (p.run moves) time = some report ∧
        p.Contains (p.run moves) trouble time report) ∧
      Loses page opener r cases trouble := by
  refine ⟨?_, shared_loses page opener r cases trouble⟩
  intro parallel fits moves time p finished
  exact (p.run_sound moves).contains finished trouble time

namespace Sample

open Walkthrough.Sample (boom fragile)

/-- The page of a case that crashed is opened and never closed, on its own and in a batch that is
then without a report. -/
theorem boom_leaves_page_open :
    (run MemoryPage.page desk fragile 3 false [boom]).sessions.map
        (fun session => (session.page.isSome, closes session)) = [(true, false)] ∧
      (run MemoryPage.page desk fragile 3 true [boom]).report.isNone = true ∧
      (run MemoryPage.page desk fragile 3 true [boom]).sessions.map
        (fun session => (session.page.isSome, closes session)) = [(true, false)] := by
  decide +kernel

end Sample

end Batch

end Walkthrough
