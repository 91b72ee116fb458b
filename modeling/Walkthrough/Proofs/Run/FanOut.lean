import Walkthrough.Proofs.Run.Heeding
import Walkthrough.Proofs.Run.Performance
import Walkthrough.Proofs.Run.Units

/-!
How a step fans out. A step that iterates asks once how many elements its target has, and performs a
unit on each of them in turn, up to the first that fails; any other step performs one unit.
-/
namespace Walkthrough

variable {σ : Type}

namespace Step

section

variable (s : Step) (r : Runner)

def pauseTime? : Option Nat :=
  if s.action = .waitForTimeout then none else s.waitTime.filter (0 < ·)

/-- What the parts of a unit keep to, whatever they are answered. -/
structure KeepsToTarget (target : Option Target) : Prop where
  acts : s.action ≠ .custom → (s.act r target).Heeds (Request.OnlyOn target)
  handled : s.action = .custom → r.registry.HeedsFaults → (s.act r target).Heeds fun _ => True
  pauses : s.pauseAfter = s.pauseTime?.elim (pure ()) fun ms => s.call (.waitForTimeout ms)
  reads : ∀ (v : Validation) own, v.selection.target? = .ok own → v.kind ≠ .custom →
    (v.evaluate r target).run.Confined (Request.OnlyOn (own.or target)) False
  custom : ∀ (v : Validation) own handler, v.selection.target? = .ok own → v.kind = .custom →
    r.registry.validation? (v.customName.getD "") = some handler →
      ∃ judged : Except Trouble Unit → Except StepFault Verdict, (v.evaluate r target).run =
        (handler v (v.scopeIn r own target)).run >>= fun x => pure (judged x)

variable (page : Page σ) (w : World σ)

/-- What came of a unit on a target: its parts were performed in series, and made its round. -/
def UnitCourse (target : Option Target) (unit : Course σ Round) : Prop :=
  ∃ parts, Play.Series page Except.isOk w (s.parts r target) parts ∧
    unit.Gathers Round.ofResults w parts

/-- What came of a step that iterates over so many elements, once these were counted. -/
structure Iterates (base : Target) (count : Nat) (units : List (Course σ Round))
    (c : Course σ StepCourse) : Prop where
  unit : ∀ i u, units[i]? = some u → i < count ∧
    s.UnitCourse r page (w.afterAll (units.take i)) (some (base.element i)) u
  all : (∀ u ∈ units, u.GoesOn (·.fault.isNone)) → units.length = count
  stopped : ∀ j u, units[j]? = some u → ¬ u.GoesOn (·.fault.isNone) → units.length = j + 1
  calls : c.calls = units.flatMap (·.calls)
  world : c.world = w.afterAll units
  reported : ∀ course, c.result = some course → course.iterations.length = units.length ∧
    ∃ rounds : List Round, units.map (·.result) = rounds.map some ∧ course = .ofRounds rounds
  crashed : none ∈ units.map (·.result) → c.result = none

/-- What comes of a step, by what its selector stands for. -/
structure FansOut : Prop where
  unresolved : ∀ fault, s.selection.target? = .error fault →
    (s.drive r).perform page w = ⟨some (.ofFault fault), [], w⟩
  once : ∀ target, s.selection.target? = .ok target → (s.iterate = true → target = none) →
    ∃ unit, s.UnitCourse r page w target unit ∧
      (s.drive r).perform page w = ⟨unit.result.map .ofRound, unit.calls, unit.world⟩ ∧
        ∀ course, ((s.drive r).perform page w).result = some course → course.iterations = []
  uncounted : ∀ base fault, s.selection.target? = .ok (some base) → s.iterate = true →
    (page.serve (.count base) w.page).answer = .error fault →
      (s.drive r).perform page w =
        ⟨some (.ofFault (.action s.action.name (.page fault))), [⟨w.now, .count base⟩],
          (w.answer page (.call (.count base))).2⟩
  counted : ∀ base count, s.selection.target? = .ok (some base) → s.iterate = true →
    (page.serve (.count base) w.page).answer = .ok count →
      ∃ units rest, (s.drive r).perform page w =
          { rest with calls := ⟨w.now, .count base⟩ :: rest.calls } ∧
        s.Iterates r page (w.answer page (.call (.count base))).2 base count units rest
  units : ∀ target, s.KeepsToTarget r target

end

variable {s : Step} {r : Runner} {page : Page σ} {w : World σ}

theorem pauseAfter_eq (s : Step) :
    s.pauseAfter = s.pauseTime?.elim (pure ()) fun ms => s.call (.waitForTimeout ms) := by
  unfold pauseAfter pauseTime? pause
  split
  · rfl
  · cases waits : s.waitTime with
    | none => rfl
    | some ms => by_cases positive : 0 < ms <;> simp [positive, Option.filter]

theorem keepsToTarget (s : Step) (r : Runner) (target : Option Target) :
    s.KeepsToTarget r target where
  acts plain := s.act_heeds_plain plain r target
  handled custom heeds := s.act_heeds_custom custom heeds target
  pauses := s.pauseAfter_eq
  reads v own resolved plain := by
    refine Validation.evaluate_confined (fun q timing => ?_) (fun own' a resolved' asserts => ?_)
      fun custom => absurd custom plain
    · cases q <;> trivial
    · obtain rfl : own = own' := Except.ok.inj (resolved.symm.trans resolved')
      exact (Validation.assertion?_reads asserts).2
  custom v own handler resolved custom found :=
    Validation.evaluate_custom custom found resolved target

theorem round_unitCourse (s : Step) (r : Runner) (page : Page σ) (w : World σ)
    (target : Option Target) :
    s.UnitCourse r page w target ((s.round r target).perform page w) := by
  rw [round_eq]
  exact Play.inSeries_bind_pure_perform page Except.isOk (s.parts r target) Round.ofResults w

theorem iterateOver_eq (s : Step) (r : Runner) (base : Target) :
    s.iterateOver r base = Play.call (.count base) >>= fun answer =>
      match answer with
      | .error fault => pure (.ofFault (.action s.action.name (.page fault)))
      | .ok count => Play.inSeries (·.fault.isNone) (s.units r base 0 count) >>= fun rounds =>
        pure (.ofRounds rounds) := by
  rw [iterateOver, call_run, bind_assoc]
  refine bind_congr fun answer => ?_
  cases answer with
  | error fault => rfl
  | ok count =>
    change (s.rounds r base 0 count >>= fun ran =>
      pure ({ iterations := ran.1, fault := ran.2 } : StepCourse)) = _
    simp [rounds_eq, StepCourse.ofRounds]

theorem units_getElem? {base : Target} {count i : Nat} {p : Play Round}
    (at_ : (s.units r base 0 count)[i]? = some p) :
    i < count ∧ p = s.round r (some (base.element i)) := by
  obtain ⟨bound, rfl⟩ := List.getElem?_eq_some_iff.mp at_
  exact ⟨by simpa [units] using bound, by simp [units]⟩

theorem iterates_of_gathers {base : Target} {count : Nat} {units : List (Course σ Round)}
    {c : Course σ StepCourse}
    (series : Play.Series page (·.fault.isNone) w (s.units r base 0 count) units)
    (gathers : c.Gathers StepCourse.ofRounds w units) :
    s.Iterates r page w base count units c where
  unit i u at_ := by
    obtain ⟨p, planned, rfl⟩ := series.course i u at_
    obtain ⟨bound, rfl⟩ := units_getElem? planned
    exact ⟨bound, s.round_unitCourse r page _ _⟩
  all goOn := by simpa [Step.units] using series.complete goOn
  stopped := series.stopped
  calls := gathers.calls
  world := gathers.world
  reported course ended := by
    obtain ⟨rounds, told, rfl⟩ := gathers.results ended
    have many := congrArg List.length told
    simp only [List.length_map] at many
    exact ⟨by simp [StepCourse.ofRounds, many], rounds, told, rfl⟩
  crashed := gathers.crashed

/-- A step performs its units one after another: as many as there are elements when it iterates,
and one otherwise. -/
theorem fans_out (s : Step) (r : Runner) (page : Page σ) (w : World σ) :
    s.FansOut r page w ∧ Registry.builtin.HeedsFaults := by
  refine ⟨?_, Registry.builtin_heedsFaults⟩
  constructor
  case unresolved =>
    intro fault resolved
    simp only [drive, resolved]
    rfl
  case once =>
    intro target resolved single
    have runs := drive_once (r := r) resolved single
    refine ⟨_, s.round_unitCourse r page w target, ?_, fun course ended => ?_⟩
    · rw [runs, Play.perform_bind_pure]
    · rw [runs, Play.perform_bind_pure] at ended
      obtain ⟨round, -, rfl⟩ := Option.map_eq_some_iff.mp ended
      rfl
  case uncounted =>
    intro base fault resolved iterates fails
    have runs := drive_iterating (r := r) resolved iterates
    have answers : (w.answer page (.call (.count base))).1 = .error fault := fails
    rw [runs, iterateOver_eq, Play.perform_call_bind, answers]
    rfl
  case counted =>
    intro base count resolved iterates counts
    have runs := drive_iterating (r := r) resolved iterates
    have answers : (w.answer page (.call (.count base))).1 = .ok count := counts
    obtain ⟨units, series, gathers⟩ := Play.inSeries_bind_pure_perform page (·.fault.isNone)
      (s.units r base 0 count) StepCourse.ofRounds (w.answer page (.call (.count base))).2
    refine ⟨units, _, ?_, iterates_of_gathers series gathers⟩
    rw [runs, iterateOver_eq, Play.perform_call_bind, answers]
  case units => exact s.keepsToTarget r

end Step

namespace Sample

def roll : Step where
  action := .hover
  selector := some "li"
  iterate := true
  waitTime := some 5
  validations := [{ kind := .toHaveText, data := some (.string "one") }]

def item : Target := ⟨.selector "li", none⟩

def threeItems : World MemoryPage :=
  { page := { elements := ["one", "two", "one"].map fun text => { key := "li", text } } }

/-- The second of three elements fails the validation, so the third is not reached. -/
theorem roll_fans_out :
    let c := (roll.drive runner).perform MemoryPage.page threeItems
    let asked := (threeItems.answer MemoryPage.page (.call (.count item))).2
    ∃ units rest, c = { rest with calls := ⟨0, .count item⟩ :: rest.calls } ∧
      roll.Iterates runner MemoryPage.page asked item 3 units rest ∧ units.length = 2 ∧
        c.result.map (·.iterations.map (·.status)) = some [.passed, .failed] := by
  intro c asked
  obtain ⟨drives, -⟩ := Step.fans_out roll runner MemoryPage.page threeItems
  obtain ⟨units, rest, ran, iterates⟩ := drives.counted item 3 rfl rfl rfl
  have ended : c.result.map (·.iterations.map (·.status)) = some [.passed, .failed] := by
    decide +kernel
  obtain ⟨course, result, statuses⟩ := Option.map_eq_some_iff.mp ended
  have reported : rest.result = some course := (congrArg Course.result ran).symm.trans result
  have two := congrArg List.length statuses
  rw [List.length_map, (iterates.reported course reported).1] at two
  exact ⟨units, rest, ran, iterates, two, ended⟩

end Sample

end Walkthrough
