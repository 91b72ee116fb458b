import Walkthrough.Handler.SelectWord
import Walkthrough.Page.Memory
import Walkthrough.Proofs.Play.Ensures
import Walkthrough.Proofs.Play.Transcript

/-!
The mouse button while a word is selected. A press that the page served is followed by a release,
with one exception: when the page fails to move the mouse in between, the handler ends at once and
the button stays pressed.
-/
namespace Walkthrough

variable {σ : Type}

def AnsweredCall.presses (a : AnsweredCall) : Bool :=
  match a.call with
  | .mouseDown => a.served
  | _ => false

def AnsweredCall.letsGo (a : AnsweredCall) : Bool :=
  match a.call with
  | .mouseUp => true
  | _ => false

/-- Every press of the mouse button is followed by a call for its release. -/
def Releases : List AnsweredCall → Prop
  | [] => True
  | a :: rest => (a.presses = true → ∃ b ∈ rest, b.letsGo = true) ∧ Releases rest

instance decidableReleases : DecidablePred Releases
  | [] => isTrue trivial
  | a :: rest =>
    have := decidableReleases rest
    inferInstanceAs (Decidable ((a.presses = true → ∃ b ∈ rest, b.letsGo = true) ∧ Releases rest))

/-- The calls end with a press and a failure to move the mouse on. -/
def HoldsOn (fault : PageFault) (made : List AnsweredCall) : Prop :=
  ∃ x y, [⟨.mouseDown, some (.ok ())⟩, ⟨.mouseMove x y, some (.error fault)⟩] <:+ made

theorem releases_of_idle {made : List AnsweredCall} (idle : ∀ a ∈ made, a.presses = false) :
    Releases made := by
  induction made with
  | nil => trivial
  | cons a rest ih =>
    rw [List.forall_mem_cons] at idle
    exact ⟨fun press => absurd press (by simp [idle.1]), ih idle.2⟩

theorem releases_append {idle : List AnsweredCall} (h : ∀ a ∈ idle, a.presses = false)
    (rest : List AnsweredCall) : Releases (idle ++ rest) ↔ Releases rest := by
  induction idle with
  | nil => rfl
  | cons a more ih =>
    rw [List.forall_mem_cons] at h
    rw [List.cons_append, Releases, ih h.2]
    simp [h.1]

theorem releases_of_append {made rest : List AnsweredCall} (h : Releases (made ++ rest)) :
    Releases rest := by
  induction made with
  | nil => exact h
  | cons a more ih => exact ih h.2

theorem not_releases_of_holdsOn {fault : PageFault} {made : List AnsweredCall}
    (holds : HoldsOn fault made) : ¬Releases made := by
  obtain ⟨x, y, before, rfl⟩ := holds
  intro releases
  obtain ⟨b, isMove, letsGo⟩ := (releases_of_append releases).1 rfl
  rw [List.mem_singleton.mp isMove] at letsGo
  cases letsGo

theorem HoldsOn.append {fault : PageFault} {made : List AnsweredCall} (holds : HoldsOn fault made)
    (before : List AnsweredCall) : HoldsOn fault (before ++ made) := by
  obtain ⟨x, y, ends⟩ := holds
  exact ⟨x, y, ends.trans (List.suffix_append ..)⟩

theorem Handler.call_run (c : Call) : (Handler.call c).run =
    Play.call c >>= fun x => pure (x.mapError PageFault.trouble) := by
  simp only [Handler.call, ExceptT.run_bind, Attempt.run_ofPlay, bind_assoc, pure_bind]
  refine bind_congr fun x => ?_
  rcases x with _ | _ <;> rfl

namespace SelectWord

/-- Calls that are made in turn, up to the first that fails, with what comes of them. -/
inductive Makes : List Call → List AnsweredCall → Except Trouble Unit → Prop where
  | all : Makes [] [] (.ok ())
  | served {c : Call} {rest : List Call} {made : List AnsweredCall} {x : Except Trouble Unit}
      (value : c.Value) (tail : Makes rest made x) :
      Makes (c :: rest) (⟨c, some (.ok value)⟩ :: made) x
  | failed {c : Call} {rest : List Call} (fault : PageFault) :
      Makes (c :: rest) [⟨c, some (.error fault)⟩] (.error fault.trouble)

theorem presses_eq_false {c : Call} (h : c ≠ .mouseDown) (answer : Option c.Answer) :
    AnsweredCall.presses ⟨c, answer⟩ = false := by
  cases c <;> first | rfl | exact absurd rfl h

theorem Makes.idle {calls : List Call} {made : List AnsweredCall} {x : Except Trouble Unit}
    (h : Makes calls made x) (idle : ∀ c ∈ calls, c ≠ .mouseDown) :
    ∀ a ∈ made, a.presses = false := by
  induction h with
  | all => simp
  | served value tail ih =>
    rw [List.forall_mem_cons] at idle ⊢
    exact ⟨presses_eq_false idle.1 _, ih idle.2⟩
  | failed fault =>
    rw [List.forall_mem_cons] at idle
    simpa using presses_eq_false idle.1 _

theorem Makes.append {first rest : List Call} {made : List AnsweredCall} {x : Except Trouble Unit}
    (h : Makes (first ++ rest) made x) :
    Makes first made x ∨
      ∃ lead tail, made = lead ++ tail ∧ Makes first lead (.ok ()) ∧ Makes rest tail x := by
  induction first generalizing made with
  | nil => exact .inr ⟨[], made, rfl, .all, h⟩
  | cons c more ih =>
    cases h with
    | served value tail =>
      rcases ih tail with ends | ⟨lead, after, rfl, leads, ends⟩
      · exact .inl (.served value ends)
      · exact .inr ⟨_, after, rfl, .served value leads, ends⟩
    | failed fault => exact .inl (.failed fault)

theorem releases_of_mouseUp (pressed moved : Option (Except PageFault Unit)) (x y : Binary64)
    (answer : Option (Except PageFault Unit)) :
    Releases [⟨.mouseDown, pressed⟩, ⟨.mouseMove x y, moved⟩, ⟨.mouseUp, answer⟩] := by
  simp [Releases, AnsweredCall.presses, AnsweredCall.letsGo]

theorem Makes.drag {x y : Binary64} {made : List AnsweredCall} {result : Except Trouble Unit}
    (h : Makes [.mouseDown, .mouseMove x y, .mouseUp] made result) :
    Releases made ∨ ∃ fault, HoldsOn fault made ∧ result = .error fault.trouble := by
  cases h with
  | failed fault => exact .inl (by simp [Releases, AnsweredCall.presses, AnsweredCall.served])
  | served pressed moves =>
    cases moves with
    | failed fault => exact .inr ⟨fault, ⟨x, y, List.suffix_refl _⟩, rfl⟩
    | served moved lets =>
      cases lets with
      | failed fault => exact .inl (releases_of_mouseUp ..)
      | served value tail =>
        cases tail
        exact .inl (releases_of_mouseUp ..)

theorem makeAll_cons (c : Call) (rest : List Call) : (makeAll (c :: rest)).run =
    Play.call c >>= fun
      | .ok _ => (makeAll rest).run
      | .error fault => pure (.error fault.trouble) := by
  simp only [makeAll, ExceptT.run_bind, Handler.call_run, bind_assoc, pure_bind]
  refine bind_congr fun x => ?_
  rcases x with _ | _ <;> rfl

theorem makeAll_makes (page : Page σ) (calls : List Call) (w : World σ) :
    ∃ x, ((makeAll calls).run.perform page w).result = some x ∧
      Makes calls ((makeAll calls).run.transcript page w) x := by
  induction calls generalizing w with
  | nil => exact ⟨.ok (), rfl, .all⟩
  | cons c rest ih =>
    rw [makeAll_cons, Play.perform_call_bind, Play.transcript_call_bind]
    generalize w.answer page (.call c) = answered
    obtain ⟨answer, after⟩ := answered
    cases answer with
    | ok value =>
      obtain ⟨x, ended, made⟩ := ih after
      exact ⟨x, ended, .served value made⟩
    | error fault => exact ⟨_, rfl, .failed fault⟩

structure Order.Drags (order : Order) : Prop where
  notKeyboard : order.mode ≠ .keyboard
  drag : order.method = .drag

theorem gestures_of_drags {order : Order} (drags : order.Drags) (b : Box) :
    gestures order b = [.mouseMove b.centerX b.centerY, .mouseMove b.startX b.startY] ++
      [.mouseDown, .mouseMove b.endX b.endY, .mouseUp] := by
  unfold gestures
  split
  · next keyboard => exact absurd keyboard drags.notKeyboard
  · next double _ => exact absurd (drags.drag.symm.trans double) (by decide)
  · rfl

theorem gestures_idle {order : Order} (other : ¬order.Drags) (b : Box) :
    ∀ c ∈ gestures order b, c ≠ .mouseDown := by
  unfold gestures
  split
  · simp
  · simp
  · next drag notKeyboard => exact absurd ⟨notKeyboard, drag⟩ other

/-- What the calls of the handler and its result say of the mouse button. A press that is not
released was made by a drag whose move failed, and the failure is the result. -/
structure Balanced (s : Step) (made : List AnsweredCall) (x : Except Trouble Unit) : Prop where
  succeeds : x = .ok () → Releases made
  balanced : Releases made ↔ ¬∃ fault, HoldsOn fault made
  unreleased : ¬Releases made → ∃ fault order, HoldsOn fault made ∧ x = .error fault.trouble ∧
    orderOf s.data = .ok order ∧ order.Drags

theorem Balanced.of_releases {s : Step} {made : List AnsweredCall} {x : Except Trouble Unit}
    (h : Releases made) : Balanced s made x where
  succeeds _ := h
  balanced := iff_of_true h fun ⟨_, holds⟩ => not_releases_of_holdsOn holds h
  unreleased := absurd h

theorem Balanced.of_holdsOn {s : Step} {order : Order} {fault : PageFault}
    {made : List AnsweredCall} (holds : HoldsOn fault made) (ordered : orderOf s.data = .ok order)
    (drags : order.Drags) : Balanced s made (.error fault.trouble) where
  succeeds := nofun
  balanced := iff_of_false (not_releases_of_holdsOn holds) (not_not_intro ⟨fault, holds⟩)
  unreleased _ := ⟨fault, order, holds, rfl, ordered, drags⟩

theorem Balanced.of_makes {s : Step} {order : Order} {b : Box} {idle made : List AnsweredCall}
    {x : Except Trouble Unit} (ordered : orderOf s.data = .ok order)
    (h : Makes (gestures order b) made x) (looks : ∀ a ∈ idle, a.presses = false) :
    Balanced s (idle ++ made) x := by
  by_cases drags : order.Drags
  · rw [gestures_of_drags drags] at h
    -- The two moves before the press may end the gesture; else only its last three calls matter.
    rcases h.append with moves | ⟨lead, tail, rfl, moves, drag⟩
    · have still := moves.idle (by simp)
      exact .of_releases ((releases_append looks made).mpr (releases_of_idle still))
    · have still := moves.idle (by simp)
      have before : ∀ a ∈ idle ++ lead, a.presses = false := by
        simpa only [List.forall_mem_append] using ⟨looks, still⟩
      rw [← List.append_assoc]
      rcases drag.drag with released | ⟨fault, holds, rfl⟩
      · exact .of_releases ((releases_append before tail).mpr released)
      · exact .of_holdsOn (holds.append (idle ++ lead)) ordered drags
  · have still := h.idle (gestures_idle drags b)
    exact .of_releases ((releases_append looks made).mpr (releases_of_idle still))

theorem handler_run (s : Step) : (handler s).run =
    match orderOf s.data with
    | .error fault => pure (.error fault.trouble)
    | .ok order => Play.call (.evaluate script (question order)) >>= fun
      | .error fault => pure (.error fault.trouble)
      | .ok found =>
        match boxOf order found with
        | .error fault => pure (.error fault.trouble)
        | .ok box => (makeAll (gestures order box)).run := by
  unfold handler
  cases orderOf s.data with
  | error fault => rfl
  | ok order =>
    simp only [orFail, pure_bind, ExceptT.run_bind]
    rw [Handler.call_run (.evaluate script (question order)), bind_assoc]
    simp only [pure_bind]
    refine bind_congr fun x => ?_
    cases x with
    | error fault => rfl
    | ok found =>
      dsimp only [Except.mapError]
      cases boxOf order found with
      | error fault => rfl
      | ok box => rfl

/-- The handler always returns, and every press that the page served is followed by a call for its
release, unless the press is the last call but one and the page failed to move the mouse on. -/
theorem handler_balanced (page : Page σ) (s : Step) (w : World σ) :
    ∃ x, ((handler s).run.perform page w).result = some x ∧
      ((handler s).run.transcript page w).map (·.call) =
        ((handler s).run.perform page w).calls.map (·.call) ∧
      Balanced s ((handler s).run.transcript page w) x := by
  suffices ∃ x, ((handler s).run.perform page w).result = some x ∧
      Balanced s ((handler s).run.transcript page w) x by
    obtain ⟨x, ended, balanced⟩ := this
    exact ⟨x, ended, Play.transcript_calls page _ w, balanced⟩
  rw [handler_run]
  cases ordered : orderOf s.data with
  | error fault => exact ⟨_, rfl, .of_releases trivial⟩
  | ok order =>
    dsimp only
    rw [Play.perform_call_bind, Play.transcript_call_bind]
    generalize w.answer page (.call (.evaluate script (question order))) = answered
    obtain ⟨answer, after⟩ := answered
    have looks (a : AnsweredCall) (h : a ∈ [(⟨.evaluate script (question order), some answer⟩ :
        AnsweredCall)]) : a.presses = false := by
      rw [List.mem_singleton.mp h]
      rfl
    cases answer with
    | error fault => exact ⟨_, rfl, .of_releases (releases_of_idle looks)⟩
    | ok found =>
      dsimp only
      cases boxOf order found with
      | error fault => exact ⟨_, rfl, .of_releases (releases_of_idle looks)⟩
      | ok box =>
        obtain ⟨x, ended, made⟩ := makeAll_makes page (gestures order box) after
        exact ⟨x, ended, .of_makes ordered made looks⟩

namespace Sample

def place : Json :=
  Json.objectOf [("startX", Json.ofNat 10), ("startY", Json.ofNat 20), ("endX", Json.ofNat 50),
    ("endY", Json.ofNat 30), ("centerX", Json.ofNat 30), ("centerY", Json.ofNat 25)]

/-- A page that does not move the mouse to the end of the word. -/
def slippery : MemoryPage :=
  { evaluateResult := place, failing := [("mouse.move 50", "lost")] }

def dragWord : Step :=
  { action := .custom, customName := some "selectWord",
    data := some (Json.objectOf [("word", .string "ab"), ("method", .string "drag")]) }

/-- The handler returns with the button pressed. -/
theorem slippery_stays_pressed :
    ((handler dragWord).run.perform MemoryPage.page { page := slippery }).result.map (·.isOk) =
        some false ∧
      ¬Releases ((handler dragWord).run.transcript MemoryPage.page { page := slippery }) :=
  ⟨by decide +kernel, by decide +kernel⟩

end Sample

end SelectWord

end Walkthrough
