import Mathlib.Data.List.Perm.Basic
import Mathlib.Logic.Hydra
import Walkthrough.Proofs.Batch.Progress

/-!
A batch with pages of their own comes to its end in whatever order its tasks move. While a task is
unfinished some task can move, and tasks cannot move forever, as each of them only goes down the
tree of its play.
-/
namespace Walkthrough.Batch

variable {σ : Type}

inductive Stage.Follows (page : Page σ) : Stage σ → Stage σ → Prop where
  | admitted : Follows page .admitted .waiting
  | opening (number : Nat) : Follows page (.opening number) .admitted
  | refused (number : Nat) (report : Option RunReport) (session : Session σ) :
      Follows page (.finished report session) (.opening number)
  | running (number : Nat) (rest : Play RunReport) (world : World σ) (calls : List TimedCall)
      (start : Nat) : Follows page (.running rest world calls start) (.opening number)
  | advanced {rest next : Play RunReport} {world after : World σ} {made : List TimedCall}
      (h : rest.advance? page world = some (next, made, after)) (calls : List TimedCall)
      (start : Nat) :
      Follows page (.running next after (calls ++ made) start) (.running rest world calls start)
  | finished (rest : Play RunReport) (world : World σ) (calls : List TimedCall) (start : Nat)
      (report : Option RunReport) (session : Session σ) :
      Follows page (.finished report session) (.running rest world calls start)

namespace Stage

variable {page : Page σ}

theorem finished_acc (report : Option RunReport) (session : Session σ) :
    Acc (Follows page) (.finished report session) := ⟨_, nofun⟩

theorem running_acc (rest : Play RunReport) (world : World σ) (calls : List TimedCall)
    (start : Nat) : Acc (Follows page) (.running rest world calls start) := by
  induction rest generalizing world calls with
  | done a =>
    constructor
    intro stage follows
    cases follows with
    | advanced h => cases h
    | finished => exact finished_acc _ _
  | crash =>
    constructor
    intro stage follows
    cases follows with
    | advanced h => cases h
    | finished => exact finished_acc _ _
  | ask r next ih =>
    constructor
    intro stage follows
    cases follows with
    | advanced h =>
      cases h
      exact ih _ _ _
    | finished => exact finished_acc _ _
  | askBy deadline r next ih =>
    constructor
    intro stage follows
    cases follows with
    | advanced h =>
      simp only [Play.advance?] at h
      split at h
      · cases h
        exact ih _ _ _
      · cases h
        exact ih _ _ _
    | finished => exact finished_acc _ _

theorem follows_wf (page : Page σ) : WellFounded (Follows page) := by
  have opening : ∀ number, Acc (Follows page) (.opening number) := by
    intro number
    constructor
    intro stage follows
    cases follows with
    | refused => exact finished_acc _ _
    | running => exact running_acc _ _ _ _
  have admitted : Acc (Follows page) .admitted := by
    constructor
    intro stage follows
    cases follows with
    | opening number => exact opening number
  have waiting : Acc (Follows page) .waiting := by
    constructor
    intro stage follows
    cases follows with
    | admitted => exact admitted
  constructor
  intro stage
  cases stage with
  | waiting => exact waiting
  | admitted => exact admitted
  | opening number => exact opening number
  | running rest world calls start => exact running_acc rest world calls start
  | finished report session => exact finished_acc report session

end Stage

namespace Plan

variable {p : Plan σ} {s s' : Progress σ} {i : Nat} {c : TestCase} {stage : Stage σ}

theorem Change.follows (change : p.Change s i c stage s') :
    ∃ stage', s'.stages = s.stages.set i stage' ∧ stage'.Follows p.page stage := by
  cases change with
  | enter free => exact ⟨_, rfl, .admitted⟩
  | ask => exact ⟨_, rfl, .opening _⟩
  | refuse time refused => exact ⟨_, rfl, .refused ..⟩
  | begin time opened => exact ⟨_, rfl, .running ..⟩
  | advance h => exact ⟨_, rfl, .advanced h ..⟩
  | finish ended => exact ⟨_, rfl, .finished ..⟩

/-- Where a task changes, one stage of the batch is replaced by one that follows it. -/
theorem Change.cutExpand (change : p.Change s i c stage s') (at_ : s.stages[i]? = some stage) :
    Relation.CutExpand (Stage.Follows p.page) (s'.stages : Multiset (Stage σ)) s.stages := by
  obtain ⟨stage', stages, follows⟩ := change.follows
  obtain ⟨bound, found⟩ := List.getElem?_eq_some_iff.mp at_
  have before : (s.stages : Multiset (Stage σ)) = {stage} + ↑(s.stages.eraseIdx i) :=
    Multiset.coe_eq_coe.mpr (found ▸ (List.getElem_cons_eraseIdx_perm bound).symm)
  have after : (s'.stages : Multiset (Stage σ)) = {stage'} + ↑(s.stages.eraseIdx i) := by
    rw [stages]
    exact Multiset.coe_eq_coe.mpr (List.set_perm_cons_eraseIdx bound stage')
  rw [before, after]
  exact Relation.cutExpand_single_add follows _

/-- A move that is not idle leads from the second progress to the first. -/
def Advances (p : Plan σ) (s' s : Progress σ) : Prop := s' ≠ s ∧ ∃ m, p.step s m = s'

/-- No batch goes on forever: among its moves only so many are not idle. -/
theorem advances_wf (p : Plan σ) : WellFounded p.Advances := by
  have stages : WellFounded (InvImage (Relation.CutExpand (Stage.Follows p.page))
      fun s : Progress σ => (s.stages : Multiset (Stage σ))) :=
    InvImage.wf _ (Stage.follows_wf p.page).cutExpand
  refine Subrelation.wf ?_ stages
  rintro s' s ⟨moved, m, rfl⟩
  obtain ⟨c, stage, -, at_, change⟩ := (step_cases m).resolve_left moved
  exact change.cutExpand at_

theorem Change.advances (change : p.Change s i c stage s') (case : p.cases[i]? = some c)
    (at_ : s.stages[i]? = some stage) : ∃ m, p.step s m = s' ∧ s' ≠ s := by
  obtain ⟨time, moved⟩ := change.exists_move
  refine ⟨⟨i, time⟩, (step_eq_move case at_).trans moved, ?_⟩
  rintro rfl
  exact (Stage.follows_wf p.page).cutExpand.irrefl.irrefl _ (change.cutExpand at_)

theorem exists_change_of_holdsSlot (holds : stage.holdsSlot = true) (s : Progress σ) (i : Nat)
    (c : TestCase) : ∃ s', p.Change s i c stage s' := by
  cases stage with
  | waiting => cases holds
  | admitted => exact ⟨_, .ask⟩
  | opening number =>
    cases opened : p.opener number with
    | error trouble => exact ⟨_, .refuse 0 opened⟩
    | ok state => exact ⟨_, .begin 0 opened⟩
  | running rest world calls start =>
    cases advances : rest.advance? p.page world with
    | none => exact ⟨_, .finish advances⟩
    | some advanced => exact ⟨_, .advance advances⟩
  | finished report session => cases holds

theorem isolated_slots_pos (page : Page σ) (opener : Opener σ) (r : Runner) (parallel : Nat)
    (cases : List TestCase) (fits : slotsFor parallel cases ≤ slotLimit) :
    (isolated page opener r parallel cases fits).cases ≠ [] →
      0 < (isolated page opener r parallel cases fits).slots := by
  intro some_
  simp only [isolated, slotsFor]
  split
  · exact List.length_pos_iff.mpr some_
  · omega

variable (sound : p.Sound s) (slots : p.cases ≠ [] → 0 < p.slots) (unfinished : s.finished = false)

include sound slots unfinished

theorem exists_busy : ∃ (i : Nat) (c : TestCase) (stage : Stage σ), p.cases[i]? = some c ∧
    s.stages[i]? = some stage ∧
    (stage.holdsSlot = true ∨ stage = .waiting ∧ s.held < p.slots) := by
  simp only [Progress.finished, List.all_eq_false] at unfinished
  obtain ⟨stage, member, busy⟩ := unfinished
  have caseOf : ∀ {i : Nat} {stage : Stage σ}, s.stages[i]? = some stage →
      ∃ c, p.cases[i]? = some c := by
    intro i stage at_
    obtain ⟨bound, -⟩ := List.getElem?_eq_some_iff.mp at_
    exact ⟨_, List.getElem?_eq_getElem (sound.length ▸ bound)⟩
  by_cases held : s.held = 0
  · obtain ⟨i, at_⟩ := List.mem_iff_getElem?.mp member
    obtain ⟨c, case⟩ := caseOf at_
    have idle : stage.holdsSlot = false := by
      simpa using List.countP_eq_zero.mp held stage member
    have some_ : p.cases ≠ [] := List.ne_nil_of_mem (List.mem_of_getElem? case)
    have waiting : stage = .waiting := by
      cases stage with
      | waiting => rfl
      | finished report session => exact absurd rfl busy
      | admitted | opening | running => cases idle
    exact ⟨i, c, stage, case, at_, .inr ⟨waiting, held ▸ slots some_⟩⟩
  · obtain ⟨stage, member, holds⟩ := List.countP_pos_iff.mp (Nat.pos_of_ne_zero held)
    obtain ⟨i, at_⟩ := List.mem_iff_getElem?.mp member
    obtain ⟨c, case⟩ := caseOf at_
    exact ⟨i, c, stage, case, at_, .inl holds⟩

theorem exists_advance : ∃ m, p.step s m ≠ s := by
  obtain ⟨i, c, stage, case, at_, able⟩ := exists_busy sound slots unfinished
  have change : ∃ s', p.Change s i c stage s' := by
    rcases able with holds | ⟨rfl, free⟩
    · exact exists_change_of_holdsSlot holds s i c
    · exact ⟨_, .enter free⟩
  obtain ⟨s', change⟩ := change
  obtain ⟨m, moved, other⟩ := change.advances case at_
  exact ⟨m, moved ▸ other⟩

omit unfinished in
theorem exists_finish : ∃ more : List Move, (more.foldl p.step s).finished = true := by
  induction s using p.advances_wf.induction with
  | _ s ih =>
    by_cases finished : s.finished = true
    · exact ⟨[], finished⟩
    · obtain ⟨m, moved⟩ := exists_advance sound slots (Bool.not_eq_true _ ▸ finished)
      obtain ⟨more, ends⟩ := ih (p.step s m) ⟨moved, m, rfl⟩ (step_sound sound m)
      exact ⟨m :: more, ends⟩

end Plan

end Walkthrough.Batch
