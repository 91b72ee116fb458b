import Walkthrough.Proofs.Run.Consistency
import Walkthrough.Proofs.Run.Sequence

/-!
Arrival at a step. A run comes to a step when all the steps before it are over without a fault, and
then what it does next is what the step does in the world that these left.
-/
namespace Walkthrough

variable {σ : Type}

namespace TestCase

section

variable (c : TestCase) (r : Runner) (page : Page σ) (w : World σ) (i : Nat)

def approach : Course σ (List StepEntry × Outcome) :=
  (Step.runAll r 0 (c.steps.take i)).perform page (w.withIds (w.ids + 1))

/-- The run comes to the step with the given index, after so many entries. -/
def ArrivesAfter (entries : List StepEntry) : Prop :=
  (c.approach r page w i).result = some (entries, .completed)

def Reaches : Prop := i < c.steps.length ∧ ∃ entries, c.ArrivesAfter r page w i entries

/-- The run ends with the step that has the given index. -/
structure AbortsWith (e : StepEntry) (last : Course σ StepCourse) : Prop where
  report : ∃ report entries, (c.course r page w).result = some (.ok report) ∧
    report.outcome = .aborted ∧ report.steps = entries ++ [e] ∧ entries.length = i ∧
      c.ArrivesAfter r page w i entries
  calls : (c.course r page w).calls = (c.approach r page w i).calls ++ last.calls
  world : (c.course r page w).world = last.world

end

variable {c : TestCase} {r : Runner} {page : Page σ} {w : World σ} {i : Nat}

theorem ArrivesAfter.length_eq {entries : List StepEntry}
    (h : c.ArrivesAfter r page w i entries) (at_ : i ≤ c.steps.length) : entries.length = i := by
  have row : StepEntry.Row 0 (c.steps.take i) entries .completed :=
    (Step.runAll_row r 0 (c.steps.take i)).result page _ h
  simpa [at_] using row.completed rfl

theorem ArrivesAfter.next {entries : List StepEntry} (h : c.ArrivesAfter r page w i entries)
    {s : Step} (at_ : c.steps[i]? = some s) {course : StepCourse}
    (ran : ((s.drive r).perform page (c.approach r page w i).world).result = some course) :
    let v := (c.approach r page w i).world
    let d := (s.drive r).perform page v
    c.approach r page w (i + 1) =
      ⟨some (entries ++ [s.entry i v.now d.world.now course],
          if course.fault.isSome then .aborted else .completed),
        (c.approach r page w i).calls ++ d.calls, d.world⟩ := by
  have taken : c.steps.take (i + 1) = c.steps.take i ++ [s] := by
    rw [List.take_add_one, at_, Option.toList_some]
  have place : (c.steps.take i).length = i := by
    have below := (List.getElem?_eq_some_iff.mp at_).1
    simpa using Nat.min_eq_left (Nat.le_of_lt below)
  have before : (c.approach r page w i).result = some (entries, .completed) := h
  intro v d
  rw [approach, taken, Step.runAll_append, Play.perform_bind]
  change Course.andThen page (c.approach r page w i) _ = _
  simp only [Course.andThen, before, reduceCtorEq, if_false, Play.perform_bind_pure, place,
    Nat.zero_add]
  by_cases stops : course.fault.isSome
  · rw [Step.runAll_cons_stopped r page i s [] ran stops]
    simp only [stops, if_true, Option.map_some]
    rfl
  · have goesOn : course.fault = none := by simpa using stops
    rw [Step.runAll_cons_goesOn r page i s [] ran goesOn]
    simp only [Step.runAll, Play.perform_pure, goesOn, Option.map_some, List.append_nil]
    rfl

theorem course_of_approach_aborted {entries : List StepEntry}
    (stopped : (c.approach r page w i).result = some (entries, .aborted)) :
    ∃ report, c.course r page w =
        ⟨some (.ok report), (c.approach r page w i).calls, (c.approach r page w i).world⟩ ∧
      report.outcome = .aborted ∧ report.steps = entries := by
  have some_ : c.steps ≠ [] := by
    intro none
    simp [approach, none, Step.runAll] at stopped
  have whole : (Step.runAll r 0 c.steps).perform page (w.withIds (w.ids + 1)) =
      c.approach r page w i := by
    have stops := Step.runAll_append_stopped r page (c.steps.drop i) (w := w.withIds (w.ids + 1))
      (a := c.steps.take i) fun others completed => by
        rw [approach, completed] at stopped
        cases stopped
    rwa [List.take_append_drop] at stops
  refine ⟨.ofEntries (.ofRandom w.ids) c.description w.now (c.approach r page w i).world.now
    .aborted entries, ?_, rfl, rfl⟩
  rw [course_eq c r some_, whole]
  simp only [stopped, Option.map_some]

theorem Reaches.aborts (h : c.Reaches r page w i) {s : Step} (at_ : c.steps[i]? = some s)
    {course : StepCourse}
    (ran : ((s.drive r).perform page (c.approach r page w i).world).result = some course)
    (stops : course.fault.isSome) :
    let v := (c.approach r page w i).world
    let d := (s.drive r).perform page v
    c.AbortsWith r page w i (s.entry i v.now d.world.now course) d := by
  obtain ⟨below, entries, arrives⟩ := h
  have next := arrives.next at_ ran
  simp only [stops, if_true] at next
  have stopped := congrArg Course.result next
  obtain ⟨report, whole, aborted, steps⟩ := course_of_approach_aborted stopped
  rw [next] at whole
  have many := arrives.length_eq (Nat.le_of_lt below)
  exact ⟨⟨report, entries, by rw [whole], aborted, steps, many, arrives⟩, by rw [whole],
    by rw [whole]⟩

theorem reaches_of_shown {report : RunReport}
    (ended : (c.course r page w).result = some (.ok report)) (shown : i < report.steps.length) :
    c.Reaches r page w i := by
  obtain ⟨some_, finish, entries, outcome, ran, rfl⟩ := course_ok ended
  have row : StepEntry.Row 0 c.steps entries outcome :=
    (Step.runAll_row r 0 c.steps).result page _ ran
  have below : i < c.steps.length := Nat.lt_of_lt_of_le shown row.length_le
  refine ⟨below, ?_⟩
  refine Classical.byContradiction fun none => ?_
  have stops := Step.runAll_append_stopped r page (c.steps.drop i) (w := w.withIds (w.ids + 1))
    (a := c.steps.take i) fun others completed => none ⟨others, completed⟩
  -- The run would be over before the step, and have no entry for it.
  rw [List.take_append_drop] at stops
  rw [stops] at ran
  have few : StepEntry.Row 0 (c.steps.take i) entries outcome :=
    (Step.runAll_row r 0 (c.steps.take i)).result page _ ran
  have bound := few.length_le
  simp only [List.length_take] at bound
  have shown : i < entries.length := shown
  omega

end TestCase

end Walkthrough
