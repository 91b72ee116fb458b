import Walkthrough.Proofs.Page.Change
import Walkthrough.Proofs.Run.SingleCall

/-!
Elements reached one by one. An action that takes no element away finds each of them at the place
that it had when they were counted, so a step that goes through them acts on each exactly once.
-/
namespace Walkthrough

/-- An action on an element that leaves it in its place. -/
inductive Touch where
  | fill (value : String)
  | type (text : String)
  | hover
  | press (key : String)
  | upload (files : List Payload)
deriving DecidableEq, Repr

namespace Touch

variable (touch : Touch) (options : Option Json) (t : Target)

def call : Call :=
  match touch with
  | fill value => .fill t value options
  | type text => .type t text options
  | hover => .hover t options
  | press key => .press t key options
  | upload files => .setInputFiles t files

def effect (e : Element) : Element :=
  match touch with
  | fill value => { e with value }
  | type text => { e with value := e.value ++ text }
  | hover => e
  | press _ => e
  | upload files => { e with files }

def line : String :=
  match touch with
  | fill value => s!"fill {t.display} {value}"
  | type text => s!"type {t.display} {text}"
  | hover => s!"hover {t.display}"
  | press key => s!"press {t.display} {key}"
  | upload files => s!"setInputFiles {t.display} {files.length}"

def noted : List (String × Json) :=
  match touch with
  | fill _ => options.toList.map fun o => (s!"fill {t.display}", o)
  | type _ => options.toList.map fun o => (s!"type {t.display}", o)
  | hover => options.toList.map fun o => (s!"hover {t.display}", o)
  | press _ => options.toList.map fun o => (s!"press {t.display}", o)
  | upload _ => []

theorem effect_key (e : Element) : (touch.effect e).key = e.key := by
  cases touch <;> rfl

end Touch

/-- The touch that a step makes on each of its elements. An upload has to have its files, and must
not clear the input first. -/
def Step.touch? (s : Step) (directory : String) : Option Touch :=
  match s.action with
  | .fill => some (.fill s.dataText)
  | .type => some (.type s.dataText)
  | .hover => some .hover
  | .press => some (.press s.dataText)
  | .upload =>
    if s.clearFirst then none
    else (Upload.collect directory s).toOption.map .upload
  | _ => none

namespace MemoryPage

variable {p : MemoryPage} (touch : Touch) (options : Option Json) (locator : Locator)

def touchedAt (p : MemoryPage) (place : Nat) : MemoryPage :=
  { p with
    elements := change locator.key touch.effect place p.elements
    log := p.log ++ [touch.line ⟨locator, some place⟩]
    options := p.options ++ touch.noted options ⟨locator, some place⟩ }

def touched (p : MemoryPage) (count : Nat) : MemoryPage :=
  { p with
    elements := changedFirst locator.key touch.effect count p.elements
    log := p.log ++ (List.range count).map fun i => touch.line ⟨locator, some i⟩
    options := p.options ++
      (List.range count).flatMap fun i => touch.noted options ⟨locator, some i⟩ }

theorem noteOptions_eq (p : MemoryPage) (operation : String) (options : Option Json) :
    p.noteOptions operation options =
      { p with options := p.options ++ options.toList.map fun o => (operation, o) } := by
  cases options with
  | none => simp [noteOptions]
  | some o => rfl

theorem serve_touch (calm : p.failing = []) {place : Nat}
    (there : place < amount locator.key p.elements) :
    ∃ a, p.serve (touch.call options ⟨locator, some place⟩) =
      (.ok a, p.touchedAt touch options locator place) := by
  have done := act_of_there calm there
  have kept : change locator.key id place p.elements = p.elements := change_id place p.elements
  cases touch with
  | fill value =>
    refine ⟨(), (done _ _).trans ?_⟩
    rw [noteOptions_eq]
    rfl
  | type text =>
    refine ⟨(), (done _ _).trans ?_⟩
    rw [noteOptions_eq]
    rfl
  | hover =>
    refine ⟨(), (done _ _).trans ?_⟩
    rw [noteOptions_eq, ← kept]
    rfl
  | press key =>
    refine ⟨(), (done _ _).trans ?_⟩
    rw [noteOptions_eq, ← kept]
    rfl
  | upload files =>
    refine ⟨(), (done _ _).trans ?_⟩
    simp only [touchedAt, Touch.noted, List.append_nil]
    rfl

theorem touched_succ (p : MemoryPage) (count : Nat) :
    (p.touched touch options locator count).touchedAt touch options locator count =
      p.touched touch options locator (count + 1) := by
  simp only [touched, touchedAt, change_changedFirst touch.effect_key, List.range_succ,
    List.map_append, List.map_singleton, List.flatMap_append, List.flatMap_singleton,
    List.append_assoc]

theorem touched_zero (p : MemoryPage) : p.touched touch options locator 0 = p := by
  simp [touched, changedFirst_zero]

theorem serve_touched (calm : p.failing = []) {count : Nat}
    (there : count < amount locator.key p.elements) :
    ∃ a, (p.touched touch options locator count).serve
        (touch.call options ⟨locator, some count⟩) =
      (.ok a, p.touched touch options locator (count + 1)) := by
  have still : count < amount locator.key (p.touched touch options locator count).elements := by
    rw [touched, amount_changedFirst touch.effect_key]
    exact there
  rw [← touched_succ]
  exact (p.touched touch options locator count).serve_touch touch options locator calm still

end MemoryPage

namespace Step

/-- A touch on each element of a locator, and nothing else. -/
structure TouchesEach (s : Step) (directory : String) (locator : Locator) (touch : Touch) :
    Prop where
  touches : s.touch? directory = some touch
  iterates : s.iterate = true
  resolved : s.selection.target? = .ok (some ⟨locator, none⟩)
  pauses : s.waitTime = none
  checks : s.validations = []

variable {s : Step} {r : Runner} {locator : Locator} {touch : Touch} {w : World MemoryPage}

theorem upload_run {files : List Payload} {directory : String}
    (collected : Upload.collect directory s = .ok files) (keeps : s.clearFirst = false)
    (t : Target) : (s.upload directory (some t)).run = Play.call (.setInputFiles t files) >>=
      fun x => pure ((x.map fun _ => ()).mapError fun fault =>
        .action s.action.name (.page fault)) := by
  have only : s.upload directory (some t) = s.call (.setInputFiles t files) := by
    simp only [upload, collected, keeps, Bool.false_eq_true, if_false]
  rw [only, call_run]
  refine bind_congr fun x => ?_
  rcases x with fault | _ <;> rfl

theorem upload_of_touch? {directory : String} (action : s.action = .upload)
    (touches : s.touch? directory = some touch) : s.clearFirst = false ∧
      ∃ files, Upload.collect directory s = .ok files ∧ touch = .upload files := by
  simp only [touch?, action] at touches
  cases clears : s.clearFirst with
  | true => simp [clears] at touches
  | false =>
    cases collected : Upload.collect directory s with
    | error fault => simp [clears, collected, Except.toOption] at touches
    | ok files =>
      obtain rfl : Touch.upload files = touch := by
        simpa [clears, collected, Except.toOption] using touches
      exact ⟨rfl, files, rfl, rfl⟩

theorem interact_of_touch? (other : s.action ≠ .upload)
    (touches : s.touch? r.directory = some touch) (t : Target) :
    s.interaction? t = some (touch.call s.options t) ∧
      s.unlimited r (some t) = s.interact (some t) := by
  cases action : s.action <;> simp only [touch?, action, Option.some.injEq, reduceCtorEq] at touches
  case upload => exact absurd action other
  all_goals
    subst touches
    exact ⟨by simp only [interaction?, action, Touch.call], by simp only [unlimited, action]⟩

theorem TouchesEach.callsOnly (h : s.TouchesEach r.directory locator touch) :
    s.CallsOnly r (touch.call s.options) where
  timed wait := by
    have touches := h.touches
    simp [touch?, wait] at touches
  runs t := by
    by_cases action : s.action = .upload
    · obtain ⟨keeps, files, collected, rfl⟩ := upload_of_touch? action h.touches
      have same : s.unlimited r (some t) = s.upload r.directory (some t) := by
        simp only [unlimited, action]
      rw [same]
      exact upload_run collected keeps t
    · obtain ⟨asks, same⟩ := interact_of_touch? action h.touches t
      rw [same]
      exact interact_run asks
  pauses := h.pauses
  checks := h.checks

theorem TouchesEach.goesThrough {directory : String}
    (h : s.TouchesEach directory locator touch) : s.GoesThrough locator :=
  ⟨h.iterates, h.resolved⟩

theorem TouchesEach.rounds (h : s.TouchesEach r.directory locator touch)
    (calm : w.page.failing = []) (place count : Nat)
    (whole : place + count = MemoryPage.amount locator.key w.page.elements) :
    (Play.inSeries (·.fault.isNone) (s.units r ⟨locator, none⟩ place count)).perform
        MemoryPage.page { w with page := w.page.touched touch s.options locator place } =
      ⟨some (List.replicate count {}),
        (List.range' place count).map fun i =>
          ⟨w.now, touch.call s.options ⟨locator, some i⟩⟩,
        { w with page := w.page.touched touch s.options locator (place + count) }⟩ := by
  induction count generalizing place with
  | zero => rfl
  | succ count ih =>
    have there : place < MemoryPage.amount locator.key w.page.elements := by omega
    obtain ⟨a, served⟩ := MemoryPage.serve_touched touch s.options locator calm there
    have first := h.callsOnly.round
      { w with page := w.page.touched touch s.options locator place } ⟨locator, some place⟩
    have rest := ih (place + 1) (by omega)
    rw [served] at first
    rw [units_succ, Play.inSeries_perform_next (by rw [first]) rfl, first]
    simp only
    rw [rest]
    simp only [List.range'_succ, List.map_cons, List.replicate_succ, Option.map_some,
      List.singleton_append, Nat.add_right_comm place 1 count, Nat.add_assoc]

structure ReachesEach (s : Step) (locator : Locator) (touch : Touch) (count : Nat)
    (w : World MemoryPage) (c : Course MemoryPage StepCourse) : Prop where
  result : c.result = some { iterations := (List.range count).map fun i => Round.entry i {} }
  calls : c.calls = ⟨w.now, .count ⟨locator, none⟩⟩ :: (List.range count).map fun i =>
    ⟨w.now, touch.call s.options ⟨locator, some i⟩⟩
  /-- Each element of the locator has had one touch, and nothing else has changed. -/
  world : c.world = { w with page := { w.page with
    elements := w.page.elements.map fun e => if e.key = locator.key then touch.effect e else e
    log := w.page.log ++ (List.range count).map fun i => touch.line ⟨locator, some i⟩
    options := w.page.options ++
      (List.range count).flatMap fun i => touch.noted s.options ⟨locator, some i⟩ } }

theorem TouchesEach.reachesEach (h : s.TouchesEach r.directory locator touch)
    (calm : w.page.failing = []) :
    s.ReachesEach locator touch (MemoryPage.amount locator.key w.page.elements) w
      ((s.drive r).perform MemoryPage.page w) := by
  have driven := h.goesThrough.drive r w
  generalize all : MemoryPage.amount locator.key w.page.elements = count at driven
  have rounds := h.rounds calm 0 count (by omega)
  rw [MemoryPage.touched_zero, Nat.zero_add] at rounds
  rw [driven, rounds]
  constructor
  case result => simp [StepCourse.ofRounds, entries_replicate]
  case calls => rw [List.range_eq_range']
  case world =>
    simp only [MemoryPage.touched, MemoryPage.changedFirst_of_amount_le (Nat.le_of_eq all)]

end Step

namespace TestCase

structure TouchesAll (c : TestCase) (r : Runner) (w : World MemoryPage) (i : Nat) (s : Step)
    (locator : Locator) (touch : Touch) (count : Nat) (v : World MemoryPage)
    (d : Course MemoryPage StepCourse) : Prop where
  reachesEach : s.ReachesEach locator touch count v d
  passes : ∃ entries e, c.ArrivesAfter r MemoryPage.page w (i + 1) (entries ++ [e]) ∧
    entries.length = i ∧ e.status = .passed ∧
      e.iterations = (List.range count).map fun j => ({ index := j, status := .passed } : Iteration)

/-- A step that iterates with an action that takes no element away reaches each of them once. -/
theorem touches_each_once (c : TestCase) (r : Runner) (w : World MemoryPage) {i : Nat} {s : Step}
    {locator : Locator} {touch : Touch} (at_ : c.steps[i]? = some s)
    (touches : s.TouchesEach r.directory locator touch)
    (reached : c.Reaches r MemoryPage.page w i) :
    let v := (c.approach r MemoryPage.page w i).world
    v.page.failing = [] → c.TouchesAll r w i s locator touch
      (MemoryPage.amount locator.key v.page.elements) v
      ((s.drive r).perform MemoryPage.page v) := by
  intro v calm
  have each := touches.reachesEach calm
  obtain ⟨below, entries, arrives⟩ := reached
  have next := congrArg Course.result (arrives.next at_ each.result)
  refine ⟨each, entries, _, next, arrives.length_eq (Nat.le_of_lt below), ?_, rfl⟩
  simp [Step.entry, StepCourse.failed, Round.entry, Round.failed, Status.ofFailure]

end TestCase

namespace Sample

def form : World MemoryPage where
  page := {
    elements := ["label", "input", "label", "input"].map fun key => { key, text := key }
    log := ["goto /form"] }

def attach : Step where
  action := .upload
  selector := some "input"
  iterate := true
  files := [{ contentBase64 := some "aGk=", name := some "hi.txt" }]

def attaching : TestCase where
  description := "attaching"
  steps := [attach, { action := .goto }]

/-- Both inputs have got the file, and the labels have none. -/
theorem attaching_touches_both :
    let touch : Touch := .upload [.content "hi.txt" none [104, 105]]
    attach.TouchesEach "" (.selector "input") touch ∧
      attaching.Reaches {} MemoryPage.page form 0 ∧ form.page.failing = [] ∧
      attaching.TouchesAll {} form 0 attach (.selector "input") touch 2 (form.withIds 1)
        ((attach.drive {}).perform MemoryPage.page (form.withIds 1)) ∧
      ((attach.drive {}).perform MemoryPage.page (form.withIds 1)).world.page.elements.map
        (·.files.length) = [0, 1, 0, 1] := by
  intro touch
  have touches : attach.TouchesEach "" (.selector "input") touch :=
    ⟨by decide +kernel, rfl, rfl, rfl, rfl⟩
  have reached : attaching.Reaches {} MemoryPage.page form 0 := ⟨by decide, [], rfl⟩
  have all := TestCase.touches_each_once attaching {} form rfl touches reached rfl
  have files := congrArg (fun v => v.page.elements.map (·.files.length)) all.reachesEach.world
  exact ⟨touches, reached, rfl, all, files⟩

end Sample

end Walkthrough
