import Walkthrough.Proofs.Batch.Liveness
import Walkthrough.Proofs.Run.Consistency

/-!
The report of a batch whose cases have pages of their own. It tells of every case at its place, and
of each what its turn came to, so neither the other cases nor the order of the moves show in it.
-/
namespace Walkthrough.Batch

variable {σ : Type}

theorem length_collect (results : List (Nat × Option RunReport)) (slots : List (Option RunReport)) :
    (collect results slots).length = slots.length := by
  induction results generalizing slots with
  | nil => rfl
  | cons result rest ih =>
    obtain ⟨i, _ | report⟩ := result
    · exact ih slots
    · exact (ih _).trans List.length_set

theorem getElem?_collect {results : List (Nat × Option RunReport)} {i : Nat}
    {report : Option RunReport} {slots : List (Option RunReport)}
    (only : ∀ other, (i, other) ∈ results → other = report)
    (slot : slots[i]? = some report ∨ slots[i]? = some none ∧ (i, report) ∈ results) :
    (collect results slots)[i]? = some report := by
  induction results generalizing slots with
  | nil => exact slot.resolve_right fun member => List.not_mem_nil member.2
  | cons result rest ih =>
    have later : ∀ other, (i, other) ∈ rest → other = report :=
      fun other member => only other (List.mem_cons_of_mem _ member)
    obtain ⟨j, _ | returned⟩ := result
    · -- A task that crashed leaves its slot as it is.
      refine ih later ?_
      rcases slot with filled | ⟨empty, member⟩
      · exact .inl filled
      · rcases List.mem_cons.mp member with this | member
        · cases this
          exact .inl empty
        · exact .inr ⟨empty, member⟩
    · refine ih later ?_
      by_cases same : j = i
      · subst same
        have filled := only (some returned) List.mem_cons_self
        have bound : j < slots.length := by
          rcases slot with at_ | ⟨at_, -⟩ <;> exact (List.getElem?_eq_some_iff.mp at_).1
        exact .inl (filled ▸ List.getElem?_set_self bound)
      · rw [List.getElem?_set_ne same]
        refine slot.imp_right fun ⟨empty, member⟩ => ⟨empty, ?_⟩
        rcases List.mem_cons.mp member with this | member
        · cases this
          exact absurd rfl same
        · exact member

namespace Plan

variable {p : Plan σ} {s : Progress σ}

theorem Sound.report (sound : p.Sound s) (finished : s.finished = true) (time : Nat) :
    ∃ runs, p.report? s time = some (.ofRuns runs) ∧ runs.length = p.cases.length ∧
      ∀ (i : Nat) c report session, p.cases[i]? = some c →
        s.stages[i]? = some (.finished report session) →
          runs[i]? = some (reportOf time i c report) := by
  refine ⟨_, if_pos finished, by simp [length_collect], ?_⟩
  intro i c report session case at_
  have filled : (collect s.results (p.cases.map fun _ => none))[i]? = some report := by
    refine getElem?_collect ?_ (.inr ⟨?_, (sound.results i report).mpr ⟨session, at_⟩⟩)
    · intro other member
      obtain ⟨session, at_'⟩ := (sound.results i other).mp member
      rw [at_] at at_'
      cases at_'
      rfl
    · rw [List.getElem?_map, case]
      rfl
  have zipped : (p.cases.zip (collect s.results (p.cases.map fun _ => none)))[i]? =
      some (c, report) := List.getElem?_zip_eq_some.mpr ⟨case, filled⟩
  rw [List.getElem?_map, List.getElem?_zipIdx, zipped]
  simp

theorem finished_of_report? {time : Nat} {report : BatchReport}
    (reported : p.report? s time = some report) : s.finished = true := by
  by_cases finished : s.finished = true
  · exact finished
  · rw [report?, if_neg finished] at reported
    cases reported

theorem Sound.turn (sound : p.Sound s) {time : Nat} {report : BatchReport}
    (reported : p.report? s time = some report) {i : Nat} {c : TestCase}
    (case : p.cases[i]? = some c) : ∃ number start, s.asked[number]? = some i ∧
      report.runs[i]? =
        some (reportOf time i c (visit p.page (p.opener number) p.runner i start c).1) := by
  have finished := finished_of_report? reported
  obtain ⟨runs, told, -, run⟩ := sound.report finished time
  obtain rfl : report = .ofRuns runs := Option.some.inj (reported.symm.trans told)
  obtain ⟨returned, session, at_⟩ :=
    sound.stage_of_finished finished (List.getElem?_eq_some_iff.mp case).1
  obtain ⟨number, start, found, visited⟩ := sound.reached i c _ case at_
  refine ⟨number, start, found, ?_⟩
  rw [visited]
  exact run i c returned session case at_

end Plan

theorem reportOf_bare {x y : Option RunReport}
    (same : x.map RunReport.bare = y.map RunReport.bare) (time i time' i' : Nat) (c : TestCase) :
    (Plan.reportOf time i c x).bare = (Plan.reportOf time' i' c y).bare := by
  cases x with
  | none =>
    cases y with
    | none => rfl
    | some report => cases same
  | some report =>
    cases y with
    | none => cases same
    | some other => exact Option.some.inj same

theorem ofRuns_passed_iff (runs : List RunReport) :
    (BatchReport.ofRuns runs).status = .passed ↔ ∀ run ∈ runs, run.status = .passed := by
  simp [BatchReport.ofRuns, Status.ofFailure_eq_passed_iff, RunReport.passed]

/-- Every run is what the turn of its case comes to, on one of the pages and at some time. -/
structure Retold (page : Page σ) (opener : Opener σ) (r : Runner) (cases : List TestCase)
    (runs : List RunReport) : Prop where
  length : runs.length = cases.length
  run : ∀ (i : Nat) c, cases[i]? = some c → ∃ number start time,
    runs[i]? = some (Plan.reportOf time i c (visit page (opener number) r i start c).1)

theorem Retold.bare_eq {page : Page σ} {opener : Opener σ} {r : Runner} {cases : List TestCase}
    {runs others : List RunReport} (timeless : ∀ c ∈ cases, c.Timeless r.registry)
    (uniform : ∀ n m, page.OpenAlike (opener n) (opener m)) (h : Retold page opener r cases runs)
    (h' : Retold page opener r cases others) :
    (BatchReport.ofRuns runs).bare = (BatchReport.ofRuns others).bare := by
  have same : runs.map RunReport.bare = others.map RunReport.bare := by
    refine List.ext_getElem? fun i => ?_
    rw [List.getElem?_map, List.getElem?_map]
    cases case : cases[i]? with
    | none =>
      have beyond := List.getElem?_eq_none_iff.mp case
      rw [List.getElem?_eq_none (h.length ▸ beyond), List.getElem?_eq_none (h'.length ▸ beyond)]
    | some c =>
      obtain ⟨number, start, time, run⟩ := h.run i c case
      obtain ⟨number', start', time', run'⟩ := h'.run i c case
      have visits := visit_bare (timeless c (List.mem_of_getElem? case)) (uniform number number')
        i i start start'
      rw [run, run']
      exact congrArg some (reportOf_bare visits ..)
  rw [BatchReport.bare_ofRuns, BatchReport.bare_ofRuns, same]

theorem getElem?_turns (page : Page σ) (opener : Opener σ) (r : Runner) (index : Nat)
    (slots : List Nat) {cases : List TestCase} {i : Nat} {c : TestCase}
    (case : cases[i]? = some c) :
    ∃ start, (turns page opener r index slots cases)[i]? =
      some (turn page (opener (index + i)) r (index + i) start c) := by
  induction cases generalizing index slots i with
  | nil => cases case
  | cons first rest ih =>
    cases i with
    | zero =>
      cases case
      exact ⟨(takeSlot slots).1, rfl⟩
    | succ i =>
      rw [turns]
      simpa [Nat.add_assoc, Nat.add_comm 1] using ih (index + 1) _ case

theorem length_turns (page : Page σ) (opener : Opener σ) (r : Runner) (index : Nat)
    (slots : List Nat) (cases : List TestCase) :
    (turns page opener r index slots cases).length = cases.length := by
  induction cases generalizing index slots with
  | nil => rfl
  | cons first rest ih => simp [turns, ih]

theorem run_retold {page : Page σ} {opener : Opener σ} {r : Runner} {parallel : Nat}
    {cases : List TestCase} {report : BatchReport}
    (reported : (run page opener r parallel false cases).report = some report) :
    ∃ runs, report = .ofRuns runs ∧ Retold page opener r cases runs := by
  cases cases with
  | nil =>
    cases reported
    exact ⟨[], rfl, rfl, nofun⟩
  | cons first rest =>
    simp only [run, List.isEmpty_cons, Bool.false_eq_true, if_false, isolated] at reported
    split at reported
    · cases reported
      refine ⟨_, rfl, by simp [length_turns], ?_⟩
      intro i c case
      obtain ⟨start, this⟩ := getElem?_turns page opener r 0 (List.replicate
        (min (slotsFor parallel (first :: rest)) (first :: rest).length) 0) case
      refine ⟨i, start, (visit page (opener i) r i start c).2.finish, ?_⟩
      rw [List.getElem?_map, this, turn_eq_visit, Nat.zero_add]
      rfl
    · cases reported

theorem run_reports (page : Page σ) (opener : Opener σ) (r : Runner) {parallel : Nat}
    {cases : List TestCase} (fits : slotsFor parallel cases ≤ slotLimit) :
    ∃ report, (run page opener r parallel false cases).report = some report := by
  simp only [run, Bool.false_eq_true, if_false, isolated, if_pos fits]
  split
  · exact ⟨_, rfl⟩
  · exact ⟨_, rfl⟩

namespace Plan

structure Reports (p : Plan σ) (s : Progress σ) (report : BatchReport) : Prop where
  length : report.runs.length = p.cases.length
  passed_iff : report.status = .passed ↔ ∀ run ∈ report.runs, run.status = .passed
  run : ∀ (i : Nat) (c : TestCase), p.cases[i]? = some c → ∃ number run,
    s.asked[number]? = some i ∧ report.runs[i]? = some run ∧
      c.ReportedAs p.runner p.page (p.opener number) run

/-- The reports of cases do not depend on what goes on beside them. -/
structure Alike (p : Plan σ) (s : Progress σ) (q : Plan σ) (s' : Progress σ) : Prop where
  /-- A case that starts at the same time on the same page ends the same. -/
  same : ∀ (i : Nat) c report session report' session' (number number' : Nat),
    p.cases[i]? = some c → q.cases[i]? = some c →
      s.stages[i]? = some (.finished report session) →
        s'.stages[i]? = some (.finished report' session') →
          s.asked[number]? = some i → s'.asked[number']? = some i →
            p.opener number = q.opener number' → session.start = session'.start →
              report = report' ∧ session = session'
  /-- Handlers that no clock moves make it the same at other times, at other places and on pages
  that only behave the same. -/
  bare : ∀ time time' report report',
    p.report? s time = some report → q.report? s' time' = some report' →
      ∀ (i j : Nat) c (number number' : Nat), p.cases[i]? = some c → q.cases[j]? = some c →
        c.Timeless p.runner.registry → s.asked[number]? = some i → s'.asked[number']? = some j →
          p.page.OpenAlike (p.opener number) (q.opener number') →
            report.runs[i]?.map RunReport.bare = report'.runs[j]?.map RunReport.bare

/-- What a batch comes to after some moves, whichever they were. -/
structure Delivers (p : Plan σ) (moves : List Move) : Prop where
  /-- Only so many moves are not idle. -/
  ends : WellFounded p.Advances
  finishes : ∃ more, (p.run (moves ++ more)).finished = true
  reports : (p.run moves).finished = true → ∀ time,
    ∃ report, p.report? (p.run moves) time = some report ∧ p.Reports (p.run moves) report
  /-- A case is reported alike among other cases, in another order, with other limits. -/
  independent : ∀ q : Plan σ, q.page = p.page → q.runner = p.runner →
    ∀ moves', p.Alike (p.run moves) q (q.run moves')
  /-- Where all pages open alike, so does the whole batch end, whatever the limit and the order. -/
  uniform : (∀ c ∈ p.cases, c.Timeless p.runner.registry) →
    (∀ n m, p.page.OpenAlike (p.opener n) (p.opener m)) →
      ∀ time report, p.report? (p.run moves) time = some report → ∀ parallel fits,
        (∀ moves' time' report',
          let q := isolated p.page p.opener p.runner parallel p.cases fits
          q.report? (q.run moves') time' = some report' → report'.bare = report.bare) ∧
        (Batch.run p.page p.opener p.runner parallel false p.cases).report.map BatchReport.bare =
          some report.bare

theorem Sound.reports {p : Plan σ} {s : Progress σ} (sound : p.Sound s) {time : Nat}
    {report : BatchReport} (reported : p.report? s time = some report) : p.Reports s report := by
  obtain ⟨runs, told, length, -⟩ := sound.report (finished_of_report? reported) time
  obtain rfl : report = .ofRuns runs := Option.some.inj (reported.symm.trans told)
  refine ⟨length, ofRuns_passed_iff runs, fun i c case => ?_⟩
  obtain ⟨number, start, found, this⟩ := sound.turn reported case
  exact ⟨number, _, found, this, visit_reportedAs _ i start c _ time⟩

theorem Sound.retold {p : Plan σ} {s : Progress σ} (sound : p.Sound s) {time : Nat}
    {report : BatchReport} (reported : p.report? s time = some report) :
    ∃ runs, report = .ofRuns runs ∧ Retold p.page p.opener p.runner p.cases runs := by
  obtain ⟨runs, told, length, -⟩ := sound.report (finished_of_report? reported) time
  obtain rfl : report = .ofRuns runs := Option.some.inj (reported.symm.trans told)
  refine ⟨runs, rfl, length, fun i c case => ?_⟩
  obtain ⟨number, start, -, this⟩ := sound.turn reported case
  exact ⟨number, start, time, this⟩

theorem Sound.number_eq {p : Plan σ} {s : Progress σ} (sound : p.Sound s) {i number other : Nat}
    (found : s.asked[number]? = some i) (found' : s.asked[other]? = some i) : number = other :=
  (List.getElem?_inj (List.getElem?_eq_some_iff.mp found).1 sound.asked).mp
    (found.trans found'.symm)

theorem visit_start (page : Page σ) (opened : Except Trouble σ) (r : Runner) (i start : Nat)
    (c : TestCase) : (visit page opened r i start c).2.start = start := by
  cases opened with
  | error trouble => rfl
  | ok state => rfl

theorem Sound.alike {p q : Plan σ} {s s' : Progress σ} (sound : p.Sound s) (sound' : q.Sound s')
    (page : q.page = p.page) (runner : q.runner = p.runner) : p.Alike s q s' where
  same i c report session report' session' number number' case case' at_ at_' found found' opened
      together := by
    obtain ⟨first, start, asked, visited⟩ := sound.reached i c _ case at_
    obtain ⟨second, start', asked', visited'⟩ := sound'.reached i c _ case' at_'
    obtain rfl := sound.number_eq found asked
    obtain rfl := sound'.number_eq found' asked'
    have starts : start = start' := by
      rw [← visit_start p.page (p.opener number) p.runner i start c, visited, together,
        ← visit_start q.page (q.opener number') q.runner i start' c, visited']
    rw [page, runner, ← opened, ← starts, visited] at visited'
    exact Prod.mk.inj visited'
  bare time time' report report' reported reported' i j c number number' case case' timeless found
      found' opened := by
    obtain ⟨first, start, asked, this⟩ := sound.turn reported case
    obtain ⟨second, start', asked', this'⟩ := sound'.turn reported' case'
    obtain rfl := sound.number_eq found asked
    obtain rfl := sound'.number_eq found' asked'
    have visits := visit_bare timeless opened i j start start'
    rw [page, runner] at this'
    rw [this, this']
    exact congrArg some (reportOf_bare visits ..)

theorem run_append (p : Plan σ) (moves more : List Move) :
    p.run (moves ++ more) = more.foldl p.step (p.run moves) := List.foldl_append

end Plan

/-- A batch of cases with pages of their own comes to its end and reports on each of them, and no
case depends on another, on the limit or on the order in which tasks move. -/
theorem isolated_delivers (page : Page σ) (opener : Opener σ) (r : Runner) (parallel : Nat)
    (cases : List TestCase) (fits : slotsFor parallel cases ≤ slotLimit) (moves : List Move) :
    (Plan.isolated page opener r parallel cases fits).Delivers moves := by
  have slots := Plan.isolated_slots_pos page opener r parallel cases fits
  generalize Plan.isolated page opener r parallel cases fits = p at slots
  have sound := p.run_sound moves
  constructor
  case ends => exact p.advances_wf
  case finishes =>
    obtain ⟨more, ends⟩ := Plan.exists_finish sound slots
    exact ⟨more, p.run_append moves more ▸ ends⟩
  case reports =>
    intro finished time
    obtain ⟨runs, told, -⟩ := sound.report finished time
    exact ⟨_, told, sound.reports told⟩
  case independent =>
    exact fun q samePage sameRunner moves' => sound.alike (q.run_sound moves') samePage sameRunner
  case uniform =>
    intro timeless alike time report reported parallel fits
    obtain ⟨runs, rfl, retold⟩ := sound.retold reported
    constructor
    · intro moves' time' report' q reported'
      obtain ⟨runs', rfl, retold'⟩ := (q.run_sound moves').retold reported'
      exact retold'.bare_eq timeless alike retold
    · obtain ⟨other, told⟩ := run_reports p.page p.opener p.runner fits
      obtain ⟨runs', rfl, retold'⟩ := run_retold told
      rw [told]
      exact congrArg some (retold'.bare_eq timeless alike retold)

namespace Sample

open Walkthrough.Sample (boom fragile rows)

theorem fragile_timeless : fragile.registry.Timeless :=
  fun k => (Registry.builtin_timeless k).addAction "boom" fun _ => .crash

/-- Two slots in turn and no limit come to the same report. -/
theorem trio_delivers :
    trio.Delivers (rounds 75) ∧ (trio.run (rounds 75)).finished = true ∧
      (∀ c ∈ trio.cases, c.Timeless fragile.registry) ∧
      (∀ n m, MemoryPage.page.OpenAlike (desk n) (desk m)) ∧
      ∃ report, trio.report? (trio.run (rounds 75)) 0 = some report ∧
        (Batch.run MemoryPage.page desk fragile 0 false [rows, boom, blank]).report.map
          BatchReport.bare = some report.bare := by
  have delivers : trio.Delivers (rounds 75) :=
    isolated_delivers MemoryPage.page desk fragile 2 [rows, boom, blank] (by decide) (rounds 75)
  have finished : (trio.run (rounds 75)).finished = true := by decide +kernel
  have timeless : ∀ c ∈ trio.cases, c.Timeless fragile.registry :=
    fun c _ => fragile_timeless.case c
  have alike : ∀ n m, MemoryPage.page.OpenAlike (desk n) (desk m) :=
    fun _ _ => MemoryPage.page.openAlike_refl _
  obtain ⟨report, reported, -⟩ := delivers.reports finished 0
  exact ⟨delivers, finished, timeless, alike, report, reported,
    (delivers.uniform timeless alike 0 report reported 0 (by decide)).2⟩

def punctual : ActionHandler := fun _ => do
  let now ← Attempt.ofPlay Play.clock
  if 0 < now then throw ⟨"too late", []⟩

def timed : Runner where
  registry := (Registry.builtin.addAction "nap" (Stock.sleep 5)).addAction "punctual" punctual

def nap : TestCase where
  description := "nap"
  steps := [{ action := .custom, customName := some "nap" }]

def appointment : TestCase where
  description := "appointment"
  steps := [{ action := .custom, customName := some "punctual" }]

/-- A handler that looks at the clock tells one limit from another, though all pages are alike, and
beyond the limit of slots there is no report. -/
theorem appointment_missed :
    (∀ n m, MemoryPage.page.OpenAlike (desk n) (desk m)) ∧
      (Batch.run MemoryPage.page desk timed 1 false [nap, appointment]).report.map
        (·.runs.map (·.status)) = some [.passed, .failed] ∧
      (Batch.run MemoryPage.page desk timed 2 false [nap, appointment]).report.map
        (·.runs.map (·.status)) = some [.passed, .passed] ∧
      (Batch.run MemoryPage.page desk timed (twoTo 61) false [nap, appointment]).report.isNone =
        true := by
  exact ⟨fun _ _ => MemoryPage.page.openAlike_refl _, by decide +kernel⟩

end Sample

end Walkthrough.Batch
