import Walkthrough.Proofs.Play.Series
import Walkthrough.Run.Report

/-!
A unit of a step is one round of it on one target: the action, the pause after it and the
validations, in series. A step that iterates is a series of units.
-/
namespace Walkthrough

def Round.ofResults : List (Except StepFault Verdict) → Round
  | [] => {}
  | .error fault :: _ => .ofFault fault
  | .ok verdict :: rest => (ofResults rest).afterVerdict verdict

def StepCourse.ofRounds (rounds : List Round) : StepCourse where
  iterations := rounds.mapIdx Round.entry
  fault := rounds.findSome? (·.fault)

def Attempt.asPart (a : Attempt StepFault Unit) : Play (Except StepFault Verdict) :=
  a.run >>= fun x => pure (x.map fun _ => .passed)

namespace Step

variable (s : Step) (r : Runner) (target : Option Target)

def checks (vs : List Validation) : List (Play (Except StepFault Verdict)) :=
  vs.map fun v => (v.evaluate r target).run

def parts : List (Play (Except StepFault Verdict)) :=
  (s.act r target).asPart :: s.pauseAfter.asPart :: checks r target s.validations

def units (base : Target) (place count : Nat) : List (Play Round) :=
  (List.range' place count).map fun i => s.round r (some (base.element i))

theorem evaluateAll_eq (vs : List Validation) :
    evaluateAll r target vs = Play.inSeries Except.isOk (checks r target vs) >>= fun results =>
      pure (.ofResults results) := by
  induction vs with
  | nil => rfl
  | cons v rest ih =>
    simp only [evaluateAll, checks, List.map_cons, Play.inSeries, bind_assoc]
    refine bind_congr fun x => ?_
    cases x with
    | error fault => simp [Except.isOk, Except.toBool, Round.ofResults]
    | ok verdict =>
      rw [ih]
      simp [Except.isOk, Except.toBool, Round.ofResults, checks]

theorem round_eq :
    s.round r target = Play.inSeries Except.isOk (s.parts r target) >>= fun results =>
      pure (.ofResults results) := by
  simp only [round, parts, Play.inSeries, Attempt.asPart, bind_assoc, pure_bind]
  refine bind_congr fun acted => ?_
  cases acted with
  | error fault => simp [Except.map, Except.isOk, Except.toBool, Round.ofResults]
  | ok _ =>
    simp only [Except.map, Except.isOk, Except.toBool, if_true, bind_assoc]
    refine bind_congr fun paused => ?_
    cases paused with
    | error fault => simp [Round.ofResults, Round.afterVerdict]
    | ok _ => simp [evaluateAll_eq, Round.ofResults, Round.afterVerdict, Except.isOk]

theorem rounds_eq (base : Target) (place count : Nat) :
    s.rounds r base place count =
      Play.inSeries (·.fault.isNone) (s.units r base place count) >>= fun rounds =>
        pure (rounds.mapIdx fun i this => this.entry (place + i), rounds.findSome? (·.fault)) := by
  induction count generalizing place with
  | zero => rfl
  | succ count ih =>
    simp only [rounds, units, List.range'_succ, List.map_cons, Play.inSeries, bind_assoc]
    refine bind_congr fun this => ?_
    cases ends : this.fault with
    | some fault => simp [ends]
    | none =>
      rw [ih]
      simp [ends, units, Nat.add_comm, Nat.add_left_comm]

variable {s r}

theorem drive_once {target : Option Target} (resolved : s.selection.target? = .ok target)
    (single : s.iterate = true → target = none) :
    s.drive r = s.round r target >>= fun this => pure (.ofRound this) := by
  cases target with
  | none => simp only [drive, resolved]
  | some base =>
    have plain : s.iterate = false := by
      rw [← Bool.not_eq_true]
      exact fun iterates => nomatch single iterates
    simp [drive, resolved, plain]

theorem drive_iterating {base : Target} (resolved : s.selection.target? = .ok (some base))
    (iterates : s.iterate = true) : s.drive r = s.iterateOver r base := by
  simp [drive, resolved, iterates]

end Step

end Walkthrough
