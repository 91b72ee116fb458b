import Walkthrough.Proofs.Run.SingleCall

/-!
Clicking away elements one by one. The elements are counted before the first click, and those that
are left move up with every click. So the step misses every second one, and halfway there is none
at the place where it looks.
-/
namespace Walkthrough

namespace MemoryPage

/-- A click removes the elements of a key, and no operation fails. -/
structure Sheds (p : MemoryPage) (key : String) : Prop where
  removes : key ∈ p.clickRemoves
  failing : p.failing = []

variable {p : MemoryPage} {locator : Locator} {place : Nat}

structure ClickedAt (p : MemoryPage) (locator : Locator) (place : Nat) (q : MemoryPage) : Prop where
  again : q.Sheds locator.key
  elements : q.elements = dropAt locator.key place p.elements
  log : q.log = p.log ++ ["click " ++ (Target.mk locator (some place)).display]

theorem clickedAt_clicked (sheds : p.Sheds locator.key) (options : Option Json) :
    let t : Target := ⟨locator, some place⟩
    let logged := { p with log := p.log ++ ["click " ++ t.display] }
    p.ClickedAt locator place (clicked t (logged.noteOptions ("click " ++ t.display) options)) := by
  have removes : p.clickRemoves.contains locator.key = true := by simpa using sheds.removes
  intro t logged
  cases options <;> cases leads : p.clickNavigation.lookup locator.key <;>
    (simp only [clicked, noteOptions, logged, t, leads, navigate, removes, if_true]
     exact ⟨⟨sheds.removes, sheds.failing⟩, rfl, rfl⟩)

theorem Sheds.serve_click (sheds : p.Sheds locator.key)
    (there : place < amount locator.key p.elements) (options : Option Json) :
    ∃ q, p.serve (.click ⟨locator, some place⟩ options) = (.ok (), q) ∧
      p.ClickedAt locator place q :=
  ⟨_, act_of_there sheds.failing there _ _, clickedAt_clicked sheds options⟩

theorem serve_click_beyond (beyond : amount locator.key p.elements ≤ place)
    (options : Option Json) : p.serve (.click ⟨locator, some place⟩ options) =
      (.error (.notFound (Target.mk locator (some place)).display), p) := by
  simp only [serve, act, find?_eq_none_iff.mpr beyond]

end MemoryPage

namespace Step

structure ClicksEach (s : Step) (locator : Locator) : Prop where
  action : s.action = .click
  iterates : s.iterate = true
  resolved : s.selection.target? = .ok (some ⟨locator, none⟩)
  pauses : s.waitTime = none
  checks : s.validations = []

variable {s : Step} {locator : Locator} {r : Runner} {w : World MemoryPage}

def missed (t : Target) : StepFault := .action "click" (.page (.notFound t.display))

theorem ClicksEach.callsOnly (h : s.ClicksEach locator) (r : Runner) :
    s.CallsOnly r fun t => .click t s.options where
  timed := by simp [h.action]
  runs t := by
    have asks : s.interaction? t = some (.click t s.options) := by
      simp only [interaction?, h.action]
    have same : (s.unlimited r (some t)).run = (s.interact (some t)).run := by
      simp only [unlimited, h.action]
    exact same.trans (interact_run asks)
  pauses := h.pauses
  checks := h.checks

theorem ClicksEach.goesThrough (h : s.ClicksEach locator) : s.GoesThrough locator :=
  ⟨h.iterates, h.resolved⟩

/-- The rounds from a place on when so many elements are left and as many are to be clicked on. -/
def sweep (locator : Locator) : (place count : Nat) → List Round
  | _, 0 => []
  | place, count + 1 =>
    if place ≤ count then {} :: sweep locator (place + 1) count
    else [.ofFault (missed ⟨locator, some place⟩)]

structure Swept (s : Step) (locator : Locator) (place count : Nat) (w : World MemoryPage)
    (c : Course MemoryPage (List Round)) : Prop where
  result : c.result = some (sweep locator place count)
  calls : c.calls = (List.range' place (sweep locator place count).length).map fun i =>
    ⟨w.now, .click ⟨locator, some i⟩ s.options⟩
  elements : c.world.page.elements = MemoryPage.thinned locator.key place w.page.elements
  log : c.world.page.log = w.page.log ++
    (List.range' place ((sweep locator place count).countP (·.fault.isNone))).map fun i =>
      "click " ++ (Target.mk locator (some i)).display

theorem Swept.after_click {place count : Nat} {q : MemoryPage}
    {d : Course MemoryPage (List Round)} (there : place ≤ count)
    (clicked : w.page.ClickedAt locator place q)
    (rest : s.Swept locator (place + 1) count { w with page := q } d) :
    s.Swept locator place (count + 1) w
      ⟨d.result.map ({} :: ·), ⟨w.now, .click ⟨locator, some place⟩ s.options⟩ :: d.calls,
        d.world⟩ where
  result := by simp [sweep, there, rest.result]
  calls := by simp [sweep, there, rest.calls, List.range'_succ]
  elements := by
    rw [← MemoryPage.thinned_dropAt, ← clicked.elements]
    exact rest.elements
  log := by
    have log := rest.log
    rw [clicked.log] at log
    simpa [sweep, there, List.range'_succ] using log

theorem swept_of_beyond {place count : Nat} (beyond : count < place)
    (left : MemoryPage.amount locator.key w.page.elements = count + 1) :
    s.Swept locator place (count + 1) w
      ⟨some [.ofFault (missed ⟨locator, some place⟩)],
        [⟨w.now, .click ⟨locator, some place⟩ s.options⟩], w⟩ where
  result := by simp [sweep, Nat.not_le.mpr beyond]
  calls := by simp [sweep, Nat.not_le.mpr beyond]
  elements := by
    have all : MemoryPage.amount locator.key w.page.elements ≤ place := by omega
    exact (MemoryPage.thinned_of_amount_le all).symm
  log := by simp [sweep, Nat.not_le.mpr beyond, Round.ofFault]

theorem ClicksEach.swept (h : s.ClicksEach locator) (r : Runner) (place : Nat) {count : Nat}
    (sheds : w.page.Sheds locator.key)
    (left : MemoryPage.amount locator.key w.page.elements = count) :
    s.Swept locator place count w ((Play.inSeries (·.fault.isNone)
      (s.units r ⟨locator, none⟩ place count)).perform MemoryPage.page w) := by
  induction count generalizing place w with
  | zero =>
    have all : MemoryPage.amount locator.key w.page.elements ≤ place := by omega
    exact ⟨rfl, rfl, (MemoryPage.thinned_of_amount_le all).symm, (List.append_nil _).symm⟩
  | succ count ih =>
    have first := (h.callsOnly r).round w ⟨locator, some place⟩
    rw [h.action] at first
    rw [units_succ]
    -- A click that finds its element leaves one less, which is what the rest has to click on.
    by_cases there : place ≤ count
    · have below : place < MemoryPage.amount locator.key w.page.elements := by omega
      obtain ⟨q, served, clicked⟩ := sheds.serve_click below s.options
      have fewer : MemoryPage.amount locator.key q.elements = count := by
        have one := MemoryPage.amount_dropAt below
        rw [clicked.elements]
        omega
      have rest := ih (w := { w with page := q }) (place + 1) clicked.again fewer
      rw [served] at first
      rw [Play.inSeries_perform_next (by rw [first]) rfl, first]
      exact rest.after_click there clicked
    · rw [MemoryPage.serve_click_beyond (by omega)] at first
      rw [Play.inSeries_perform_last (by rw [first]) rfl, first]
      exact swept_of_beyond (Nat.lt_of_not_le there) left

/-- The elements left and the place come closer to each other from both sides, so they meet halfway;
only when that is at the last element is none missed. -/
theorem sweep_eq (locator : Locator) (place count : Nat) :
    let hits := (count + 1 - place) / 2
    sweep locator place count = List.replicate hits ({} : Round) ++
      if hits < count then [.ofFault (missed ⟨locator, some (place + hits)⟩)] else [] := by
  induction count generalizing place with
  | zero =>
    have none : (0 + 1 - place) / 2 = 0 := by omega
    simp [sweep, none]
  | succ count ih =>
    by_cases there : place ≤ count
    · have more : (count + 1 + 1 - place) / 2 = (count + 1 - (place + 1)) / 2 + 1 := by omega
      simp only [sweep, there, if_true, ih, more, List.replicate_succ, List.cons_append,
        Nat.add_lt_add_iff_right, Nat.add_right_comm place 1, ← Nat.add_assoc]
    · have none : (count + 1 + 1 - place) / 2 = 0 := by omega
      simp [sweep, there, none]

theorem sweep_of_few {count : Nat} (few : count ≤ 1) :
    sweep locator 0 count = List.replicate count ({} : Round) := by
  rw [sweep_eq, if_neg (by omega), List.append_nil, show (count + 1 - 0) / 2 = count by omega]

theorem sweep_of_many {count : Nat} (many : 2 ≤ count) :
    sweep locator 0 count = List.replicate ((count + 1) / 2) ({} : Round) ++
      [.ofFault (missed ⟨locator, some ((count + 1) / 2)⟩)] := by
  rw [sweep_eq, if_pos (by omega), Nat.sub_zero, Nat.zero_add]

theorem sweep_lengths (locator : Locator) (count : Nat) :
    (sweep locator 0 count).length = (if count ≤ 1 then count else (count + 1) / 2 + 1) ∧
      (sweep locator 0 count).countP (·.fault.isNone) = (count + 1) / 2 := by
  rcases Nat.lt_or_ge 1 count with many | few
  · simp [sweep_of_many many, Nat.not_le.mpr many, List.countP_replicate, Round.ofFault]
  · rw [sweep_of_few few, if_pos few, List.length_replicate, List.countP_replicate]
    exact ⟨rfl, by simp; omega⟩

structure MissesHalf (s : Step) (locator : Locator) (count : Nat) (w : World MemoryPage)
    (c : Course MemoryPage StepCourse) : Prop where
  /-- Those that stood at even places are gone. -/
  elements : c.world.page.elements = MemoryPage.spared locator.key 0 w.page.elements
  log : c.world.page.log = w.page.log ++ (List.range ((count + 1) / 2)).map fun i =>
    "click " ++ (Target.mk locator (some i)).display
  few : count ≤ 1 → c.result = some
    { iterations := (List.range count).map fun i => Round.entry i {} }
  many : 2 ≤ count → c.result = some
    { iterations := (List.range ((count + 1) / 2)).map (fun i => Round.entry i {}) ++
        [Round.entry ((count + 1) / 2)
          (.ofFault (missed ⟨locator, some ((count + 1) / 2)⟩))]
      fault := some (missed ⟨locator, some ((count + 1) / 2)⟩) }
  calls : c.calls = ⟨w.now, .count ⟨locator, none⟩⟩ ::
    (List.range (if count ≤ 1 then count else (count + 1) / 2 + 1)).map fun i =>
      ⟨w.now, .click ⟨locator, some i⟩ s.options⟩

theorem ClicksEach.missesHalf (h : s.ClicksEach locator) (r : Runner)
    (sheds : w.page.Sheds locator.key) :
    s.MissesHalf locator (MemoryPage.amount locator.key w.page.elements) w
      ((s.drive r).perform MemoryPage.page w) := by
  have driven := h.goesThrough.drive r w
  generalize left : MemoryPage.amount locator.key w.page.elements = count at driven
  have swept := h.swept r 0 sheds left
  obtain ⟨performed, passed⟩ := sweep_lengths locator count
  rw [driven]
  refine ⟨?_, ?_, fun few => ?_, fun many => ?_, ?_⟩
  · exact swept.elements.trans (MemoryPage.thinned_eq_spared 0 w.page.elements)
  · rw [List.range_eq_range', ← passed]
    exact swept.log
  · simp [swept.result, sweep_of_few few, StepCourse.ofRounds, entries_replicate]
  · simp [swept.result, sweep_of_many many, StepCourse.ofRounds, entries_replicate, Round.ofFault]
  · rw [List.range_eq_range', ← performed]
    exact congrArg _ swept.calls

end Step

namespace TestCase

/-- What a run shows of a step that clicks on each of the elements of a locator. -/
structure Sweeps (c : TestCase) (r : Runner) (w : World MemoryPage) (i : Nat) (s : Step)
    (locator : Locator) (count : Nat) (v : World MemoryPage) (d : Course MemoryPage StepCourse) :
    Prop where
  misses : s.MissesHalf locator count v d
  /-- With one element at most none is missed. -/
  passes : count ≤ 1 → ∃ entries e,
    c.ArrivesAfter r MemoryPage.page w (i + 1) (entries ++ [e]) ∧ entries.length = i ∧
      e.status = .passed ∧ e.iterations = (List.range count).map fun j => Round.entry j {}
  fails : 2 ≤ count → ∃ e, c.AbortsWith r MemoryPage.page w i e d ∧ e.status = .failed ∧
    e.error = some (Step.missed ⟨locator, some ((count + 1) / 2)⟩).report ∧
    e.iterations = (List.range ((count + 1) / 2)).map (fun j => Round.entry j {}) ++
      [Round.entry ((count + 1) / 2) (.ofFault (Step.missed ⟨locator, some ((count + 1) / 2)⟩))]

/-- A step that clicks away elements one by one takes away every second one, and aborts the run
halfway when there are two or more. -/
theorem sweeps_every_second (c : TestCase) (r : Runner) (w : World MemoryPage) {i : Nat} {s : Step}
    {locator : Locator} (at_ : c.steps[i]? = some s) (clicks : s.ClicksEach locator)
    (reached : c.Reaches r MemoryPage.page w i) :
    let v := (c.approach r MemoryPage.page w i).world
    v.page.Sheds locator.key → c.Sweeps r w i s locator
      (MemoryPage.amount locator.key v.page.elements) v ((s.drive r).perform MemoryPage.page v) := by
  intro v sheds
  have misses := clicks.missesHalf r sheds
  refine ⟨misses, fun one => ?_, fun more => ?_⟩
  · obtain ⟨below, entries, arrives⟩ := reached
    have next := congrArg Course.result (arrives.next at_ (misses.few one))
    refine ⟨entries, _, next, arrives.length_eq (Nat.le_of_lt below), ?_, rfl⟩
    simp [Step.entry, StepCourse.failed, Round.entry, Round.failed, Status.ofFailure]
  · have aborts := reached.aborts at_ (misses.many more) rfl
    exact ⟨_, aborts, rfl, rfl, rfl⟩

end TestCase

namespace Sample

def table : World MemoryPage where
  page := {
    elements := ["row", "head", "row", "row", "foot", "row", "row"].mapIdx fun i key =>
      { key, text := toString i }
    clickRemoves := ["row"] }

def sweeper : Step := { action := .click, selector := some "row", iterate := true }

def sweeping : TestCase where
  description := "sweeping"
  steps := [sweeper, { action := .goto }]

/-- The first, third and fifth row are removed, and there is none at the fourth place then. -/
theorem sweeping_sweeps :
    sweeping.Reaches {} MemoryPage.page table 0 ∧ sweeper.ClicksEach (.selector "row") ∧
      table.page.Sheds "row" ∧
      sweeping.Sweeps {} table 0 sweeper (.selector "row") 5 (table.withIds 1)
        ((sweeper.drive {}).perform MemoryPage.page (table.withIds 1)) ∧
      (MemoryPage.spared "row" 0 table.page.elements).map (·.text) = ["1", "2", "4", "5"] := by
  have reached : sweeping.Reaches {} MemoryPage.page table 0 := ⟨by decide, [], rfl⟩
  have clicks : sweeper.ClicksEach (.selector "row") := ⟨rfl, rfl, rfl, rfl, rfl⟩
  have sheds : table.page.Sheds "row" := ⟨by decide, rfl⟩
  refine ⟨reached, clicks, sheds, ?_, by decide⟩
  exact TestCase.sweeps_every_second sweeping {} table rfl clicks reached sheds

end Sample

end Walkthrough
