import Walkthrough.Page.Scripted
import Walkthrough.Proofs.Play.Deadline
import Walkthrough.Proofs.Play.Ensures
import Walkthrough.Run.Action

/-!
The time limit of actions. An action that is over within its limit does what it does without one,
also when it ends at that very moment; any other is cut there. Waits have no limit.
-/
namespace Walkthrough

variable {σ : Type}

def Runner.actionLimit (r : Runner) : Nat := r.settings.actionTimeout.millis

namespace Step

section

variable (s : Step) (r : Runner) (target : Option Target) (page : Page σ) (w : World σ)

def actCourse : Course σ (Except StepFault Unit) := (s.act r target).run.perform page w

/-- What would come of the action if it could take as long as it needs. -/
def unlimitedCourse : Course σ (Except StepFault Unit) :=
  (s.unlimited r target).run.perform page w

/-- An action with a time limit, which is not refused for want of a target. -/
structure Limited : Prop where
  timed : s.action ≠ .waitForTimeout
  admitted : s.lacksTarget r.settings target = false

/-- What the time limit makes of the action of a step. -/
structure ActsInTime : Prop where
  wait : s.action = .waitForTimeout →
    s.actCourse r target page w = s.unlimitedCourse r target page w
  refused : s.lacksTarget r.settings target = true →
    s.actCourse r target page w = ⟨some (.error (.targetRequired s.action.name)), [], w⟩
  ends : s.action ≠ .waitForTimeout →
    (s.actCourse r target page w).world.now ≤ w.now + r.actionLimit
  inTime : s.Limited r target →
    (s.unlimitedCourse r target page w).world.now ≤ w.now + r.actionLimit →
      s.actCourse r target page w = s.unlimitedCourse r target page w
  late : s.Limited r target →
    w.now + r.actionLimit < (s.unlimitedCourse r target page w).world.now →
      (s.actCourse r target page w).result =
          some (.error (.actionTimeout s.action.name r.actionLimit)) ∧
        (s.unlimitedCourse r target page w).CutAt (w.now + r.actionLimit)
          (s.actCourse r target page w)

end

/-- The result of a limited action, if it has one by its limit, and a fault otherwise. -/
def settled (s : Step) (limit : Nat) : Option (Except StepFault Unit) → Except StepFault Unit
  | some result => result
  | none => .error (.actionTimeout s.action.name limit)

theorem limited_run (s : Step) (limit : Nat) (p : Attempt StepFault Unit) :
    (s.limited limit p).run = Play.limited limit p.run >>= fun x => pure (s.settled limit x) := by
  simp only [limited, ExceptT.run_bind, Attempt.run_ofPlay, bind_assoc, pure_bind]
  refine bind_congr fun x => ?_
  rcases x with _ | _ | _ <;> rfl

section

variable {s : Step} {r : Runner} {target : Option Target} (page : Page σ) (w : World σ)

theorem actCourse_of_wait (wait : s.action = .waitForTimeout) :
    s.actCourse r target page w = s.unlimitedCourse r target page w := by
  simp only [actCourse, unlimitedCourse, act, unlimited, wait]

theorem act_of_lacksTarget (lacks : s.lacksTarget r.settings target = true) :
    s.act r target = throw (.targetRequired s.action.name) := by
  unfold act
  split
  · rename_i name unknown
    simp [lacksTarget, unknown, Action.needsTarget] at lacks
  · rename_i wait
    simp [lacksTarget, wait, Action.needsTarget] at lacks
  · rw [if_pos lacks]

/-- A limited action runs against its limit, unless nobody knows what it is. -/
theorem act_of_limited (limited : s.Limited r target) :
    s.act r target = s.limited r.actionLimit (s.unlimited r target) ∨
      s.act r target = s.unlimited r target ∧ ∃ f, s.unlimited r target = throw f := by
  unfold act
  split
  · rename_i name unknown
    have none : s.unlimited r target = throw (.unsupportedAction name) := by
      simp only [unlimited, unknown]
    exact .inr ⟨none.symm, _, none⟩
  · rename_i wait
    exact absurd wait limited.timed
  · rw [limited.admitted]
    exact .inl rfl

theorem limited_perform (limit : Nat) (p : Attempt StepFault Unit) :
    (s.limited limit p).run.perform page w =
      let c := (p.run.within (w.now + limit)).perform page w
      ⟨c.result.map (s.settled limit), c.calls, c.world⟩ := by
  rw [limited_run, Play.perform_bind_pure]
  rfl

theorem limited_perform_inTime {limit : Nat} {p : Attempt StepFault Unit}
    (inTime : (p.run.perform page w).world.now ≤ w.now + limit) :
    (s.limited limit p).run.perform page w = p.run.perform page w := by
  have kept (x : Option (Except StepFault Unit)) : (x.map some).map (s.settled limit) = x := by
    cases x <;> rfl
  rw [limited_perform, Play.perform_within_inTime page p.run w inTime]
  simp only [kept]

theorem limited_perform_late {limit : Nat} {p : Attempt StepFault Unit}
    (late : w.now + limit < (p.run.perform page w).world.now) :
    ((s.limited limit p).run.perform page w).result =
        some (.error (.actionTimeout s.action.name limit)) ∧
      (p.run.perform page w).CutAt (w.now + limit) ((s.limited limit p).run.perform page w) := by
  obtain ⟨unsettled, cut⟩ := Play.perform_within_late page p.run w (Nat.le_add_right ..) late
  rw [limited_perform]
  simp only [unsettled, Option.map_some]
  exact ⟨rfl, cut.now, cut.begun, cut.calls⟩

theorem actCourse_inTime (limited : s.Limited r target)
    (inTime : (s.unlimitedCourse r target page w).world.now ≤ w.now + r.actionLimit) :
    s.actCourse r target page w = s.unlimitedCourse r target page w := by
  unfold actCourse
  rcases act_of_limited limited with runs | ⟨same, -⟩
  · rw [runs]
    exact limited_perform_inTime page w inTime
  · rw [same]
    rfl

theorem actCourse_of_throw (limited : s.Limited r target) {f : StepFault}
    (fails : s.unlimited r target = throw f) :
    s.actCourse r target page w = ⟨some (.error f), [], w⟩ := by
  have alone : s.unlimitedCourse r target page w = ⟨some (.error f), [], w⟩ := by
    simp only [unlimitedCourse, fails]
    rfl
  have inTime : (s.unlimitedCourse r target page w).world.now ≤ w.now + r.actionLimit := by
    rw [alone]
    exact Nat.le_add_right ..
  exact (actCourse_inTime page w limited inTime).trans alone

theorem actCourse_late (limited : s.Limited r target)
    (late : w.now + r.actionLimit < (s.unlimitedCourse r target page w).world.now) :
    (s.actCourse r target page w).result =
        some (.error (.actionTimeout s.action.name r.actionLimit)) ∧
      (s.unlimitedCourse r target page w).CutAt (w.now + r.actionLimit)
        (s.actCourse r target page w) := by
  unfold actCourse
  rcases act_of_limited limited with runs | ⟨-, f, fails⟩
  · rw [runs]
    exact limited_perform_late page w late
  · rw [unlimitedCourse, fails] at late
    exact absurd late (Nat.not_lt.mpr (Nat.le_add_right ..))

theorem actCourse_ends (timed : s.action ≠ .waitForTimeout) :
    (s.actCourse r target page w).world.now ≤ w.now + r.actionLimit := by
  cases lacks : s.lacksTarget r.settings target with
  | true =>
    rw [actCourse, act_of_lacksTarget lacks]
    exact Nat.le_add_right ..
  | false =>
    have limited : s.Limited r target := ⟨timed, lacks⟩
    by_cases inTime : (s.unlimitedCourse r target page w).world.now ≤ w.now + r.actionLimit
    · rw [actCourse_inTime page w limited inTime]
      exact inTime
    · have late := actCourse_late page w limited (Nat.lt_of_not_le inTime)
      exact Nat.le_of_eq late.2.now

end

/-- An action but a wait ends within its limit, as it would without one or else cut there; it is
only refused at once where settings demand a target that it lacks. -/
theorem acts_in_time (s : Step) (r : Runner) (target : Option Target) (page : Page σ)
    (w : World σ) : s.ActsInTime r target page w where
  wait := actCourse_of_wait page w
  refused lacks := by
    rw [actCourse, act_of_lacksTarget lacks]
    rfl
  ends := actCourse_ends page w
  inTime := actCourse_inTime page w
  late := actCourse_late page w

end Step

namespace Sample

def heavy : Step where
  action := .upload
  selector := some "#file"
  data := some (.string "/a")
  clearFirst := true

def hasty : Runner := { settings := { actionTimeout := .ofMillis 1000 } }

def slow : World ScriptedPage :=
  { page := { memory := { elements := [{ key := "#file" }] }, delay := 600 } }

/-- The files are cleared by 600 ms, and the second call is given up at 1000 ms. -/
theorem heavy_acts_in_time :
    let target : Target := ⟨.selector "#file", none⟩
    let course := heavy.actCourse hasty (some target) ScriptedPage.page slow
    heavy.Limited hasty (some target) ∧
      course.result = some (.error (.actionTimeout "upload" 1000)) ∧
        course.world.now = 1000 ∧ course.calls.map (·.time) = [0, 600] := by
  intro target course
  have limited : heavy.Limited hasty (some target) := ⟨by decide, by decide⟩
  have acts := Step.acts_in_time heavy hasty (some target) ScriptedPage.page slow
  have whole : (heavy.unlimitedCourse hasty (some target) ScriptedPage.page slow).world.now =
      1200 := by decide +kernel
  obtain ⟨timedOut, cut⟩ := acts.late limited (by rw [whole]; decide)
  exact ⟨limited, timedOut, cut.now, by decide +kernel⟩

def aimlessClick : Step := { action := .click }

def demanding : Runner := { settings := .strict }

def blank : World MemoryPage := { page := {} }

/-- Without a limit the click is passed over at once, though strict settings refuse it. -/
theorem aimlessClick_refused :
    aimlessClick.action ≠ .waitForTimeout ∧
      (aimlessClick.unlimitedCourse demanding none MemoryPage.page blank).world.now ≤
        blank.now + demanding.actionLimit ∧
      (aimlessClick.unlimitedCourse demanding none MemoryPage.page blank).result =
        some (.ok ()) ∧
      (aimlessClick.actCourse demanding none MemoryPage.page blank).result =
        some (.error (.targetRequired "click")) :=
  ⟨by decide, by decide, rfl, rfl⟩

end Sample

end Walkthrough
