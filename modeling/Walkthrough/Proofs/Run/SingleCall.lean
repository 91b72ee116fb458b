import Walkthrough.Proofs.Page.Removal
import Walkthrough.Proofs.Run.Arrival
import Walkthrough.Proofs.Run.FanOut
import Walkthrough.Proofs.Run.TimeLimit

/-!
Steps that iterate on a page in memory with one call in each round. The page takes no time, so no
round is cut, and the step counts the elements and then makes its call on one after the other.
-/
namespace Walkthrough

namespace MemoryPage

variable {p : MemoryPage} {locator : Locator} {place : Nat}

theorem find?_eq_none_iff : p.find? ⟨locator, some place⟩ = none ↔
    amount locator.key p.elements ≤ place := by
  simp [find?, matching, amount, List.countP_eq_length_filter]

theorem answer_count (w : World MemoryPage) (locator : Locator) :
    w.answer MemoryPage.page (.call (.count ⟨locator, none⟩)) =
      (.ok (amount locator.key w.page.elements), w) := by
  simp only [World.answer, MemoryPage.page, serve, matching, ← List.countP_eq_length_filter]
  rfl

theorem act_of_there (calm : p.failing = []) (there : place < amount locator.key p.elements)
    (line : String) (effect : MemoryPage → MemoryPage) :
    p.act ⟨locator, some place⟩ line effect =
      (.ok (), effect { p with log := p.log ++ [line] }) := by
  cases found : p.find? ⟨locator, some place⟩ with
  | none => exact absurd (find?_eq_none_iff.mp found) (Nat.not_le.mpr there)
  | some e => simp only [act, found, record, calm, List.find?_nil]

end MemoryPage

namespace Step

structure CallsOnly (s : Step) (r : Runner) (call : Target → Call) : Prop where
  timed : s.action ≠ .waitForTimeout
  runs : ∀ t, (s.unlimited r (some t)).run = Play.call (call t) >>= fun x =>
    pure ((x.map fun _ => ()).mapError fun fault => .action s.action.name (.page fault))
  pauses : s.waitTime = none
  checks : s.validations = []

/-- A step that goes through the elements of a locator. -/
structure GoesThrough (s : Step) (locator : Locator) : Prop where
  iterates : s.iterate = true
  resolved : s.selection.target? = .ok (some ⟨locator, none⟩)

variable {s : Step} {locator : Locator} {r : Runner}

theorem interact_run {t : Target} {c : Call} (asks : s.interaction? t = some c) :
    (s.interact (some t)).run = Play.call c >>= fun x => pure ((x.map fun _ => ()).mapError
      fun fault => .action s.action.name (.page fault)) := by
  simp only [interact, asks, ExceptT.run_bind, call_run, bind_assoc, pure_bind]
  refine bind_congr fun x => ?_
  rcases x with fault | _ <;> rfl

theorem CallsOnly.round {call : Target → Call} (h : s.CallsOnly r call) (w : World MemoryPage)
    (t : Target) : (s.round r (some t)).perform MemoryPage.page w =
      ⟨some (match (w.page.serve (call t)).1 with
        | .ok _ => {}
        | .error fault => .ofFault (.action s.action.name (.page fault))),
        [⟨w.now, call t⟩], { w with page := (w.page.serve (call t)).2 }⟩ := by
  have alone : s.unlimitedCourse r (some t) MemoryPage.page w =
      ⟨some (((w.page.serve (call t)).1.map fun _ => ()).mapError fun fault =>
        .action s.action.name (.page fault)), [⟨w.now, call t⟩],
        { w with page := (w.page.serve (call t)).2 }⟩ := by
    rw [unlimitedCourse, h.runs, Play.perform_call_bind]
    rfl
  have inTime : (s.unlimitedCourse r (some t) MemoryPage.page w).world.now ≤
      w.now + r.actionLimit := by
    rw [alone]
    exact Nat.le_add_right ..
  have limited : s.Limited r (some t) := ⟨h.timed, by simp [lacksTarget]⟩
  have acted : (s.act r (some t)).run.perform MemoryPage.page w = _ :=
    (actCourse_inTime MemoryPage.page w limited inTime).trans alone
  have pauses : s.pauseAfter = pure () := by simp [pauseAfter, pause, h.pauses]
  rw [Step.round, Play.perform_bind, acted]
  simp only [pauses, h.checks]
  cases (w.page.serve (call t)).1 with
  | error fault => rfl
  | ok _ => rfl

theorem units_succ (place count : Nat) : s.units r ⟨locator, none⟩ place (count + 1) =
    s.round r (some ⟨locator, some place⟩) :: s.units r ⟨locator, none⟩ (place + 1) count := by
  simp [units, List.range'_succ, Target.element]

theorem GoesThrough.drive (h : s.GoesThrough locator) (r : Runner) (w : World MemoryPage) :
    let c := (Play.inSeries (·.fault.isNone) (s.units r ⟨locator, none⟩ 0
      (MemoryPage.amount locator.key w.page.elements))).perform MemoryPage.page w
    (s.drive r).perform MemoryPage.page w =
      ⟨c.result.map .ofRounds, ⟨w.now, .count ⟨locator, none⟩⟩ :: c.calls, c.world⟩ := by
  rw [drive_iterating h.resolved h.iterates, iterateOver_eq, Play.perform_call_bind,
    MemoryPage.answer_count]
  simp only [Play.perform_bind_pure]

theorem entries_replicate (n : Nat) : (List.replicate n ({} : Round)).mapIdx Round.entry =
    (List.range n).map fun i => Round.entry i {} := by
  apply List.ext_getElem <;> simp

end Step

end Walkthrough
