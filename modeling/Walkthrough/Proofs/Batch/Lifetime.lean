import Walkthrough.Proofs.Batch.Liveness

/-!
How long the tasks of a batch hold their slots and their pages. No more of them than there are slots
are at work at a time, every case asks for one page, and a page is closed once, after the last step
on it and before the slot is given back.
-/
namespace Walkthrough

variable {σ : Type}

/-- No handler closes a page. -/
def Registry.LeavesOpen (r : Registry) : Prop := r.Confined (· ≠ .call .close) True

theorem Request.IsOwn.ne_close {q : Request} (own : q.IsOwn) : q ≠ .call .close := by
  rintro rfl
  exact own rfl

theorem Registry.builtin_leavesOpen : Registry.builtin.LeavesOpen :=
  builtin_parametric.confined fun _ own => own.ne_close

theorem Play.Confined.calls {α : Type} {may : Request → Prop} {crash : Prop} {p : Play α}
    (h : p.Confined may crash) (page : Page σ) (w : World σ) :
    ∀ c ∈ (p.perform page w).calls, may (.call c.call) := by
  have callOf : ∀ (w : World σ) {q : Request}, may q → ∀ c ∈ w.callOf q, may (.call c.call) := by
    intro w q allowed c member
    cases q with
    | call c' =>
      obtain rfl := List.mem_singleton.mp member
      exact allowed
    | _ => cases member
  induction p generalizing w with
  | done a => nofun
  | crash => nofun
  | ask q next ih =>
    simp only [perform, List.forall_mem_append]
    exact ⟨callOf w h.1, ih _ (h.2 _) _⟩
  | askBy deadline q next ih =>
    simp only [perform]
    split
    · exact List.forall_mem_append.mpr ⟨callOf w h.1, ih _ (h.2 _) _⟩
    · exact List.forall_mem_append.mpr ⟨callOf w h.1, ih _ (h.2 _) _⟩

theorem Play.open_congruence : Play.Congruence fun p _ => p.Confined (· ≠ .call .close) True :=
  Play.confined_congruence fun _ own => own.ne_close

section

variable {r : Runner} (leaves : r.registry.LeavesOpen)

include leaves

theorem TestCase.run_open (c : TestCase) : (c.run r).run.Confined (· ≠ .call .close) True :=
  Play.open_congruence.run (Registry.confined_iff_related.mp leaves)
    (fun _ open_ => Play.confined_request open_) c

theorem Batch.runInTurn_open (cases : List TestCase) :
    (runInTurn r cases).Confined (· ≠ .call .close) True :=
  Play.open_congruence.runInTurn (Registry.confined_iff_related.mp leaves)
    (fun _ open_ => Play.confined_request open_) cases

end

theorem Play.Confined.calls_open {α : Type} {p : Play α} (h : p.Confined (· ≠ .call .close) True)
    (page : Page σ) (w : World σ) : ∀ call ∈ (p.perform page w).calls, call.call ≠ .close :=
  fun call member closes => h.calls page w call member (congrArg Request.call closes)

namespace Batch.Plan

variable {p : Plan σ} {s : Progress σ}

theorem engaged_le_held (s : Progress σ) : s.engaged ≤ s.held := by
  refine List.countP_mono_left fun stage _ engaged => ?_
  cases stage with
  | opening number => rfl
  | running rest world calls start => rfl
  | waiting | admitted | finished => cases engaged

theorem Sound.asked_perm (sound : p.Sound s) (finished : s.finished = true) :
    s.asked.Perm (List.range p.cases.length) := by
  refine (List.perm_ext_iff_of_nodup sound.asked List.nodup_range).mpr fun i => ?_
  rw [List.mem_range]
  refine ⟨sound.places i, fun bound => ?_⟩
  obtain ⟨report, session, at_⟩ := sound.stage_of_finished finished bound
  have case := List.getElem?_eq_getElem bound
  obtain ⟨number, start, found, -⟩ := sound.reached i _ _ case at_
  exact List.mem_of_getElem? found

/-- The calls are those of the run of a case on the page that it was given, and a last one that
closes the page. -/
structure Closes (p : Plan σ) (s : Progress σ) (i : Nat) (c : TestCase) (calls : List TimedCall) :
    Prop where
  last : ∃ (number : Nat) (w : World σ) (time : Nat), s.asked[number]? = some i ∧
    p.opener number = .ok w.page ∧
    calls = (c.freshCourse p.runner p.page w).calls ++ [⟨time, .close⟩]
  once : p.runner.registry.LeavesOpen → ∃ earlier time,
    calls = earlier ++ [⟨time, .close⟩] ∧ ∀ call ∈ earlier, call.call ≠ .close

theorem closes_of_ended {i number : Nat} {c : TestCase} {w : World σ} {report : RunReport}
    {calls : List TimedCall} (found : s.asked[number]? = some i)
    (opened : p.opener number = .ok w.page)
    (ended : ((c.runAndClose p.runner).perform p.page w).result = some report)
    (made : ((c.runAndClose p.runner).perform p.page w).calls = calls) :
    p.Closes s i c calls := by
  obtain ⟨time, closing⟩ := c.runAndClose_calls p.runner p.page w ended
  rw [made] at closing
  refine ⟨⟨number, w, time, found, opened, closing⟩, fun leaves => ?_⟩
  exact ⟨_, time, closing, (c.run_open leaves).calls_open p.page w⟩

/-- What holds of slots and pages after some moves, whichever they were. -/
structure Disciplined (p : Plan σ) (s : Progress σ) : Prop where
  engaged_le : s.engaged ≤ p.slots
  held_le : s.held ≤ p.slots
  askedOnce : s.asked.Nodup
  asked_iff : ∀ (i : Nat) (stage : Stage σ), s.stages[i]? = some stage →
    (i ∈ s.asked ↔ stage ≠ .waiting ∧ stage ≠ .admitted)
  askedAll : s.finished = true → s.asked.Perm (List.range p.cases.length)
  /-- When the slot is given back, the page did not open, or a handler crashed, or it is closed. -/
  closed : ∀ (i : Nat) c report session, p.cases[i]? = some c →
    s.stages[i]? = some (.finished (some report) session) →
      (session.page = none ∧ session.calls = [] ∧ ∃ number trouble,
        s.asked[number]? = some i ∧ p.opener number = .error trouble) ∨
      p.Closes s i c session.calls
  /-- A task that is no longer engaged has closed its page, though it has its slot. -/
  closing : ∀ (i : Nat) c rest world calls start report, p.cases[i]? = some c →
    s.stages[i]? = some (.running rest world calls start) → rest.value? = some report →
      p.Closes s i c calls
  unstuck : s.finished = false →
    (∃ (i : Nat) (stage : Stage σ), s.stages[i]? = some stage ∧
      (stage.holdsSlot = true ∨ stage = .waiting ∧ s.held < p.slots)) ∧
    ∃ m, p.step s m ≠ s

theorem Sound.mem_asked_iff (sound : p.Sound s) {i : Nat} {stage : Stage σ}
    (at_ : s.stages[i]? = some stage) :
    i ∈ s.asked ↔ stage ≠ .waiting ∧ stage ≠ .admitted := by
  have bound := (List.getElem?_eq_some_iff.mp at_).1
  have case := List.getElem?_eq_getElem (sound.length ▸ bound)
  have reached := sound.reached i _ stage case at_
  cases stage with
  | waiting => simpa [Reached] using reached
  | admitted => simpa [Reached] using reached
  | opening number => simpa using List.mem_of_getElem? reached
  | running rest world calls start =>
    obtain ⟨number, state, found, -⟩ := reached
    simpa using List.mem_of_getElem? found
  | finished report session =>
    obtain ⟨number, start, found, -⟩ := reached
    simpa using List.mem_of_getElem? found

theorem Sound.disciplined (sound : p.Sound s) (slots : p.cases ≠ [] → 0 < p.slots) :
    p.Disciplined s := by
  constructor
  case engaged_le => exact Nat.le_trans (engaged_le_held s) sound.held
  case held_le => exact sound.held
  case askedOnce => exact sound.asked
  case asked_iff => exact fun i stage at_ => sound.mem_asked_iff at_
  case askedAll => exact sound.asked_perm
  case closed =>
    intro i c report session case at_
    obtain ⟨number, start, found, visited⟩ := sound.reached i c _ case at_
    cases opened : p.opener number with
    | error trouble =>
      simp only [visit, opened, Prod.mk.injEq] at visited
      obtain ⟨-, rfl⟩ := visited
      exact .inl ⟨rfl, rfl, number, trouble, found, opened⟩
    | ok state =>
      simp only [visit, opened, Prod.mk.injEq] at visited
      obtain ⟨ended, rfl⟩ := visited
      exact .inr (closes_of_ended found opened ended rfl)
  case closing =>
    intro i c rest world calls start report case at_ ended
    obtain ⟨number, state, found, opened, whole⟩ := sound.reached i c _ case at_
    cases rest with
    | done a =>
      have ended := congrArg Course.result whole
      have made := congrArg Course.calls whole
      exact closes_of_ended found opened ended (made.trans (List.append_nil calls))
    | crash | ask | askBy => cases ended
  case unstuck =>
    intro unfinished
    obtain ⟨i, c, stage, -, at_, able⟩ := exists_busy sound slots unfinished
    exact ⟨⟨i, stage, at_, able⟩, exists_advance sound slots unfinished⟩

end Batch.Plan

/-- In a batch of cases with pages of their own no more of them are at work than there are slots,
whatever the order of the moves, and each closes its page before it gives its slot back. With more
slots than a semaphore can have no page is ever opened. -/
theorem Batch.isolated_disciplined (page : Page σ) (opener : Opener σ) (r : Runner)
    (parallel : Nat) (cases : List TestCase) :
    (∀ fits moves, let p := Plan.isolated page opener r parallel cases fits
      p.Disciplined (p.run moves)) ∧
      (cases ≠ [] → slotLimit < slotsFor parallel cases →
        run page opener r parallel false cases = ⟨none, []⟩) := by
  constructor
  · intro fits moves p
    exact (p.run_sound moves).disciplined (Plan.isolated_slots_pos page opener r parallel cases fits)
  · intro some_ many
    have filled : cases.isEmpty = false := by simpa using some_
    simp only [run, filled, Bool.false_eq_true, if_false, isolated, if_neg (Nat.not_le.mpr many)]

namespace Batch.Sample

open Walkthrough.Sample (boom fragile rows)

theorem fragile_leavesOpen : fragile.registry.LeavesOpen := by
  have builtin := Registry.confined_iff_related.mp Registry.builtin_leavesOpen
  exact Registry.confined_iff_related.mpr (builtin.addAction "boom" fun _ _ => trivial)

def reported : Stage MemoryPage → Bool
  | .finished report session => report.isSome && session.page.isSome
  | _ => false

/-- The first case of the sample closes its page, though its run fails. -/
theorem trio_disciplined :
    trio.Disciplined (trio.run (rounds 75)) ∧ fragile.registry.LeavesOpen ∧
      ∃ report session, (trio.run (rounds 75)).stages[0]? = some (.finished (some report) session) ∧
        trio.Closes (trio.run (rounds 75)) 0 rows session.calls := by
  have disciplined : trio.Disciplined (trio.run (rounds 75)) :=
    (isolated_disciplined MemoryPage.page desk fragile 2 [rows, boom, blank]).1 _ (rounds 75)
  refine ⟨disciplined, fragile_leavesOpen, ?_⟩
  have ended : (trio.run (rounds 75)).stages[0]?.any reported = true := by decide +kernel
  cases at_ : (trio.run (rounds 75)).stages[0]? with
  | none =>
    rw [at_] at ended
    cases ended
  | some stage =>
    rw [at_] at ended
    cases stage with
    | finished report session =>
      obtain ⟨some_, opened⟩ := Bool.and_eq_true_iff.mp ended
      obtain ⟨report, rfl⟩ := Option.isSome_iff_exists.mp some_
      refine ⟨report, session, rfl, ?_⟩
      rcases disciplined.closed 0 rows report session rfl at_ with ⟨none, -⟩ | closes
      · rw [none] at opened
        cases opened
      · exact closes
    | waiting | admitted | opening | running => cases ended

/-- With one slot more than there can be, no page is opened and nothing is reported. -/
theorem rows_never_begun :
    (run MemoryPage.page desk fragile (slotLimit + 1) false [rows]).sessions.isEmpty = true ∧
      (run MemoryPage.page desk fragile (slotLimit + 1) false [rows]).report.isNone = true ∧
      (run MemoryPage.page desk fragile slotLimit false [rows]).sessions.map closes = [true] := by
  decide +kernel

end Batch.Sample

end Walkthrough
