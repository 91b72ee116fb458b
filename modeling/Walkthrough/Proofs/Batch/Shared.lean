import Walkthrough.Proofs.Batch.Crashes

/-!
Cases that share a page. They run one by one, each from an empty context on the page as the one
before it has left it, and the page is all that goes from one to the next.
-/
namespace Walkthrough

variable {σ : Type}

def World.cleared (w : World σ) : World σ := { w with context := .empty }

namespace Batch

variable {page : Page σ} {r : Runner}

def emptyReport (id : RunId) (now : Nat) (c : TestCase) : RunReport :=
  .ofSetup id now c.description "Validate test case"
    (FaultCode.emptyTestCase.label s!"Test case '{c.description}' has no steps")

theorem emptyReport_failsSetup (id : RunId) (now : Nat) (c : TestCase) :
    (emptyReport id now c).FailsSetup c "Validate test case" .emptyTestCase
      s!"Test case '{c.description}' has no steps" := RunReport.failsSetup_ofSetup ..

/-- Cases are run one by one from a world on: their reports and calls, and the world that is left.
Each case starts in an empty context; one without steps does nothing. -/
inductive Relay (page : Page σ) (r : Runner) :
    World σ → List TestCase → List RunReport → List TimedCall → World σ → Prop
  | done {w : World σ} : Relay page r w [] [] [] w
  | ran {w last : World σ} {c : TestCase} {rest : List TestCase} {report : RunReport}
      {reports : List RunReport} {calls : List TimedCall}
      (ended : (c.course r page w.cleared).result = some (.ok report))
      (others : Relay page r (c.course r page w.cleared).world rest reports calls last) :
      Relay page r w (c :: rest) (report :: reports) ((c.course r page w.cleared).calls ++ calls)
        last
  | empty {w last : World σ} {c : TestCase} {rest : List TestCase} {reports : List RunReport}
      {calls : List TimedCall} (none : c.steps = [])
      (others : Relay page r (w.cleared.withIds (w.ids + 1)) rest reports calls last) :
      Relay page r w (c :: rest) (emptyReport (.ofRandom w.ids) w.now c :: reports) calls last

theorem Relay.length_eq {cases : List TestCase} {w last : World σ} {reports : List RunReport}
    {calls : List TimedCall} (relay : Relay page r w cases reports calls last) :
    reports.length = cases.length := by
  induction relay with
  | done => rfl
  | ran ended others ih => simp [ih]
  | empty none others ih => simp [ih]

theorem relay_append_iff {before after : List TestCase} {w last : World σ}
    {reports : List RunReport} {calls : List TimedCall} :
    Relay page r w (before ++ after) reports calls last ↔
      ∃ first firstCalls mid others otherCalls, Relay page r w before first firstCalls mid ∧
        Relay page r mid after others otherCalls last ∧ reports = first ++ others ∧
        calls = firstCalls ++ otherCalls := by
  constructor
  · intro relay
    induction before generalizing w reports calls with
    | nil => exact ⟨[], [], w, reports, calls, .done, relay, rfl, rfl⟩
    | cons c rest ih =>
      cases relay with
      | ran ended others =>
        obtain ⟨first, firstCalls, mid, later, laterCalls, one, two, rfl, rfl⟩ := ih others
        exact ⟨_, _, mid, later, laterCalls, .ran ended one, two, rfl, by simp⟩
      | empty none others =>
        obtain ⟨first, firstCalls, mid, later, laterCalls, one, two, rfl, rfl⟩ := ih others
        exact ⟨_, _, mid, later, laterCalls, .empty none one, two, rfl, rfl⟩
  · rintro ⟨first, firstCalls, mid, others, otherCalls, one, two, rfl, rfl⟩
    induction one with
    | done => exact two
    | ran ended rest ih =>
      rw [List.append_assoc]
      exact .ran ended (ih two)
    | empty none rest ih => exact .empty none (ih two)

theorem Relay.report {before after : List TestCase} {c : TestCase} {w last : World σ}
    {reports : List RunReport} {calls : List TimedCall}
    (relay : Relay page r w (before ++ c :: after) reports calls last) :
    ∃ first firstCalls mid, Relay page r w before first firstCalls mid ∧
      (c.steps ≠ [] → ∃ report, reports[before.length]? = some report ∧
        (c.course r page mid.cleared).result = some (.ok report)) ∧
      (c.steps = [] →
        reports[before.length]? = some (emptyReport (.ofRandom mid.ids) mid.now c) ∧
          (emptyReport (.ofRandom mid.ids) mid.now c).FailsSetup c "Validate test case"
            .emptyTestCase s!"Test case '{c.description}' has no steps") := by
  obtain ⟨first, firstCalls, mid, others, otherCalls, one, two, rfl, -⟩ :=
    relay_append_iff.mp relay
  refine ⟨first, firstCalls, mid, one, ?_⟩
  rw [← one.length_eq, List.getElem?_append_right Nat.le.refl, Nat.sub_self]
  cases two with
  | ran ended _ =>
    have some_ := (TestCase.course_ok ended).1
    exact ⟨fun _ => ⟨_, rfl, ended⟩, fun none => absurd none some_⟩
  | empty none _ =>
    exact ⟨fun some_ => absurd none some_, fun _ => ⟨rfl, emptyReport_failsSetup ..⟩⟩

theorem relay_of_runInTurn {cases : List TestCase} {w : World σ} {reports : List RunReport}
    (ended : ((runInTurn r cases).perform page w).result = some reports) :
    Relay page r w cases reports ((runInTurn r cases).perform page w).calls
      ((runInTurn r cases).perform page w).world := by
  induction cases generalizing w reports with
  | nil =>
    cases ended
    exact .done
  | cons c rest ih =>
    rw [runInTurn_cons_perform, c.runInBatch_perform] at ended ⊢
    cases run : (c.freshCourse r page w).result with
    | none => simp only [run, reduceCtorEq] at ended
    | some x =>
      cases x with
      | ok report =>
        simp only [run] at ended ⊢
        obtain ⟨others, later, rfl⟩ := Option.map_eq_some_iff.mp ended
        have relay := ih later
        rw [TestCase.freshCourse_eq] at run relay ⊢
        exact .ran run relay
      | error fault =>
        obtain ⟨none, rfl⟩ := c.freshCourse_error r page w run
        simp only [run] at ended ⊢
        obtain ⟨others, later, rfl⟩ := Option.map_eq_some_iff.mp ended
        have relay := ih later
        rw [TestCase.freshCourse_eq, TestCase.course_of_nil c r none] at relay ⊢
        exact .empty none relay

theorem Relay.forgets {later : List TestCase} {w v last last' : World σ}
    {reports reports' : List RunReport} {calls calls' : List TimedCall}
    (one : Relay page r w later reports calls last)
    (other : Relay page r v later reports' calls' last') (same : w.cleared = v.cleared) :
    reports' = reports ∧ calls' = calls ∧ last'.cleared = last.cleared := by
  induction one generalizing v reports' calls' with
  | done =>
    cases other with
    | done => exact ⟨rfl, rfl, same.symm⟩
  | @ran w last c rest report reports calls ended others ih =>
    cases other with
    | ran ended' others' =>
      -- Both runs are in one and the same world, once the contexts are emptied.
      rw [← same] at ended' others' ⊢
      obtain ⟨rfl, rfl, left⟩ := ih others' rfl
      cases ended.symm.trans ended'
      exact ⟨rfl, rfl, left⟩
    | empty none others' => exact absurd none (TestCase.course_ok ended).1
  | @empty w last c rest reports calls none others ih =>
    cases other with
    | ran ended' others' => exact absurd none (TestCase.course_ok ended').1
    | empty none' others' =>
      have now : v.now = w.now := (congrArg World.now same).symm
      have ids : v.ids = w.ids := (congrArg World.ids same).symm
      rw [← same, ids] at others'
      obtain ⟨rfl, rfl, left⟩ := ih others' rfl
      exact ⟨by rw [now, ids], rfl, left⟩

theorem Relay.later {later : List TestCase} {w v last last' : World σ}
    {reports reports' : List RunReport} {calls calls' : List TimedCall} {k : Nat}
    (timeless : ∀ c ∈ later, c.Timeless r.registry) (one : Relay page r w later reports calls last)
    (other : Relay page r v later reports' calls' last') (same : v.page = w.page)
    (now : v.now = w.now + k) :
    reports'.map RunReport.bare = reports.map RunReport.bare ∧
      calls' = calls.map (·.later k) ∧ last'.page = last.page := by
  induction one generalizing v reports' calls' with
  | done =>
    cases other with
    | done => exact ⟨rfl, rfl, same⟩
  | @ran w last c rest report reports calls ended others ih =>
    cases other with
    | empty none others' => exact absurd none (TestCase.course_ok ended).1
    | @ran _ _ _ _ report' _ _ ended' others' =>
      have worlds : w.cleared.Later k Eq v.cleared := ⟨same.symm, now, rfl⟩
      obtain ⟨result, made, left⟩ := TestCase.course_later (timeless c List.mem_cons_self)
        page.eq_bisimulation worlds
      rw [ended, ended'] at result
      cases result with
      | some bare =>
        have bare : report.bare = report'.bare := Except.ok.inj bare
        obtain ⟨reports, calls, last⟩ := ih (fun c member => timeless c (.tail _ member)) others'
          left.page.symm left.now
        exact ⟨by simp [bare, reports], by simp [made, calls], last⟩
  | @empty w last c rest reports calls none others ih =>
    cases other with
    | ran ended' others' => exact absurd none (TestCase.course_ok ended').1
    | empty none' others' =>
      obtain ⟨reports, calls, last⟩ := ih (fun c member => timeless c (.tail _ member)) others' same
        now
      exact ⟨by simp [reports]; rfl, calls, last⟩

/-- What later cases get from earlier ones is the page, besides the time and the identifiers. -/
structure Forgets (page : Page σ) (r : Runner) (later : List TestCase) : Prop where
  context : ∀ {w v reports reports' calls calls' last last'}, w.cleared = v.cleared →
    Relay page r w later reports calls last → Relay page r v later reports' calls' last' →
      reports' = reports ∧ calls' = calls ∧ last'.cleared = last.cleared
  /-- To cases whose handlers use the clock for no more than measuring not even these make a
  difference. -/
  page : (∀ c ∈ later, c.Timeless r.registry) → ∀ {w v reports reports' calls calls' last last'},
    w.page = v.page → Relay page r w later reports calls last →
      Relay page r v later reports' calls' last' →
        reports'.map RunReport.bare = reports.map RunReport.bare ∧
          calls'.map (·.call) = calls.map (·.call) ∧ last'.page = last.page

theorem forgets (page : Page σ) (r : Runner) (later : List TestCase) : Forgets page r later where
  context same one other := one.forgets other same
  page timeless := by
    intro w v reports reports' calls calls' last last' same one other
    rcases Nat.le_total w.now v.now with early | late
    · have now : v.now = w.now + (v.now - w.now) := by omega
      obtain ⟨bare, made, left⟩ := one.later timeless other same.symm now
      exact ⟨bare, by simp [made, TimedCall.later, Function.comp_def], left⟩
    · have now : w.now = v.now + (w.now - v.now) := by omega
      obtain ⟨bare, made, left⟩ := other.later timeless one same now
      exact ⟨bare.symm, by simp [made, TimedCall.later, Function.comp_def], left.symm⟩

/-- No handler crashes in a run of one of the cases. -/
def Calm (page : Page σ) (r : Runner) (cases : List TestCase) : Prop :=
  ∀ c ∈ cases, ∀ w : World σ, (c.course r page w).result ≠ none

theorem calm_of_steady (steady : r.registry.Steady) (page : Page σ) (cases : List TestCase) :
    Calm page r cases := by
  intro c _ w
  by_cases empty : c.steps = []
  · simp [c.course_of_nil r empty]
  · exact c.course_result_ne_none empty steady page w

theorem Calm.runInTurn {cases : List TestCase} (calm : Calm page r cases) (w : World σ) :
    ∃ reports, ((runInTurn r cases).perform page w).result = some reports := by
  rw [← Option.ne_none_iff_exists']
  intro none
  obtain ⟨before, c, after, rfl, -, crashed⟩ := (runInTurn_eq_none_iff ..).mp none
  rw [TestCase.freshCourse_eq] at crashed
  exact calm c (by simp) _ crashed

structure Shares (page : Page σ) (opener : Opener σ) (r : Runner) (cases : List TestCase)
    (course : BatchCourse σ) : Prop where
  pages : course.sessions.length ≤ 1
  idle : cases = [] → course.sessions = [] ∧ course.report = some (.ofRuns [])
  opened : cases ≠ [] → ∀ state, opener 0 = .ok state →
    ∃ runs calls last, Relay page r { page := state } cases runs calls last ∧
      runs.length = cases.length ∧ course.report = some (.ofRuns runs) ∧
      (∀ before c after, cases = before ++ c :: after →
        ∃ first firstCalls mid, Relay page r { page := state } before first firstCalls mid ∧
          (c.steps ≠ [] → ∃ report, runs[before.length]? = some report ∧
            (c.course r page mid.cleared).result = some (.ok report)) ∧
          (c.steps = [] →
            runs[before.length]? = some (emptyReport (.ofRandom mid.ids) mid.now c) ∧
              (emptyReport (.ofRandom mid.ids) mid.now c).FailsSetup c "Validate test case"
                .emptyTestCase s!"Test case '{c.description}' has no steps")) ∧
      course.sessions.map (·.calls) = [calls ++ [⟨last.now, .close⟩]] ∧
      course.sessions.map (·.page) = [some (page.serve .close last.page).after] ∧
      (r.registry.LeavesOpen → ∀ call ∈ calls, call.call ≠ .close)
  refused : cases ≠ [] → ∀ trouble, opener 0 = .error trouble →
    ∃ runs, course.report = some (.ofRuns runs) ∧ runs.length = cases.length ∧
      (∀ (i : Nat) c, cases[i]? = some c → ∃ run, runs[i]? = some run ∧
        run = .ofSetup (.ofRandom i) 0 c.description "Open page"
          (FaultCode.bridgeFault.label trouble.message) ∧
        run.FailsSetup c "Open page" .bridgeFault trouble.message) ∧
      ∀ session ∈ course.sessions, session.page = none ∧ session.calls = []

theorem Calm.shares {cases : List TestCase} (calm : Calm page r cases) (opener : Opener σ)
    (parallel : Nat) : Shares page opener r cases (run page opener r parallel true cases) := by
  have all : cases ≠ [] → run page opener r parallel true cases = shared page opener r cases := by
    intro some_
    simp [run, some_]
  constructor
  case pages =>
    by_cases none : cases = []
    · simp [run, none]
    · rw [all none]
      unfold shared
      split <;> simp
  case idle =>
    intro none
    simp [run, none]
  case opened =>
    intro some_ state ok
    obtain ⟨reports, ended⟩ := calm.runInTurn { page := state }
    have relay := relay_of_runInTurn ended
    refine ⟨reports, _, _, relay, relay.length_eq, ?_⟩
    rw [all some_]
    simp only [shared, ok, runAllAndClose_perform, ended, Option.map_some, List.map_cons,
      List.map_nil]
    refine ⟨trivial, ?_, trivial, rfl, fun leaves => ?_⟩
    · rintro before c after rfl
      exact relay.report
    · exact (runInTurn_open leaves cases).calls_open page _
  case refused =>
    intro some_ trouble failed
    rw [all some_]
    simp only [shared, failed]
    refine ⟨_, rfl, by simp, ?_, by simp⟩
    intro i c at_
    exact ⟨.ofOpening (.ofRandom i) 0 c trouble, by simp [at_], rfl, RunReport.failsSetup_ofSetup ..⟩

/-- A batch of cases that share a page is the relay of their runs, on the only page that is
opened, however many may run at a time. -/
theorem shared_relays (page : Page σ) (opener : Opener σ) (r : Runner) (cases : List TestCase)
    (calm : Calm page r cases) :
    (∀ parallel, Shares page opener r cases (run page opener r parallel true cases)) ∧
      (∀ parallel parallel' (opener' : Opener σ), opener' 0 = opener 0 →
        run page opener' r parallel' true cases = run page opener r parallel true cases) ∧
      ∀ later, Forgets page r later := by
  refine ⟨calm.shares opener, ?_, forgets page r⟩
  intro parallel parallel' opener' first
  simp only [run, shared, first]
  rfl

namespace Sample

open Walkthrough.Sample (rows runner)

/-- A case that aborts and one without steps keep no other from running. -/
theorem rows_relayed : Calm MemoryPage.page runner [rows, blank, rows] ∧
    (∀ parallel, Shares MemoryPage.page desk runner [rows, blank, rows]
      (run MemoryPage.page desk runner parallel true [rows, blank, rows])) ∧
    (run MemoryPage.page desk runner 2 true [rows, blank, rows]).report.map
        (·.runs.map fun run => (run.testCase, run.outcome, run.steps.length)) =
      some [("rows", .aborted, 2), ("blank", .aborted, 1), ("rows", .aborted, 2)] :=
  have calm := calm_of_steady (r := runner) Registry.builtin_steady MemoryPage.page
    [rows, blank, rows]
  ⟨calm, (shared_relays MemoryPage.page desk runner [rows, blank, rows] calm).1, by decide +kernel⟩

end Sample

end Batch

end Walkthrough
