import Walkthrough.Proofs.Batch.Turn

/-!
What holds of a batch with pages of their own after any moves: no more tasks hold a slot than there
are, every case asks for a page once, and what a task has come to is what the turn of its case comes
to, whatever the others do.
-/
namespace Walkthrough.Batch

variable {σ : Type}

/-- All that a move of a task can do, by the stage of the task. -/
inductive Plan.Change (p : Plan σ) (s : Progress σ) (i : Nat) (c : TestCase) :
    Stage σ → Progress σ → Prop where
  | enter (free : s.held < p.slots) : Change p s i c .waiting (s.put i .admitted)
  | ask : Change p s i c .admitted (s.ask i)
  | refuse {number : Nat} {trouble : Trouble} (time : Nat)
      (refused : p.opener number = .error trouble) :
      Change p s i c (.opening number)
        (s.finish i (some (.ofOpening (.ofRandom i) time c trouble)) ⟨[], none, time, time⟩)
  | begin {number : Nat} {state : σ} (time : Nat) (opened : p.opener number = .ok state) :
      Change p s i c (.opening number) (s.put i
        (.running (c.runAndClose p.runner) { page := state, now := time, ids := i } [] time))
  | advance {rest next : Play RunReport} {world after : World σ} {calls made : List TimedCall}
      {start : Nat} (h : rest.advance? p.page world = some (next, made, after)) :
      Change p s i c (.running rest world calls start)
        (s.put i (.running next after (calls ++ made) start))
  | finish {rest : Play RunReport} {world : World σ} {calls : List TimedCall} {start : Nat}
      (ended : rest.advance? p.page world = none) :
      Change p s i c (.running rest world calls start)
        (s.finish i rest.value? ⟨calls, some world.page, start, world.now⟩)

namespace Plan

variable {p : Plan σ} {s s' : Progress σ} {i : Nat} {c : TestCase} {stage : Stage σ}

theorem step_eq_move {m : Move} (case : p.cases[m.task]? = some c)
    (at_ : s.stages[m.task]? = some stage) :
    p.step s m = p.move s m.task m.time c stage := by
  simp only [step, case, at_]

theorem move_cases (p : Plan σ) (s : Progress σ) (i time : Nat) (c : TestCase) (stage : Stage σ) :
    p.move s i time c stage = s ∨ p.Change s i c stage (p.move s i time c stage) := by
  cases stage with
  | waiting =>
    simp only [move]
    split
    · rename_i free
      exact .inr (.enter free)
    · exact .inl rfl
  | admitted => exact .inr .ask
  | opening number =>
    simp only [move]
    split
    · rename_i refused
      exact .inr (.refuse time refused)
    · rename_i opened
      exact .inr (.begin time opened)
  | running rest world calls start =>
    simp only [move]
    split
    · rename_i advances
      exact .inr (.advance advances)
    · rename_i ended
      exact .inr (.finish ended)
  | finished report session => exact .inl rfl

theorem step_cases (m : Move) :
    p.step s m = s ∨ ∃ c stage, p.cases[m.task]? = some c ∧ s.stages[m.task]? = some stage ∧
      p.Change s m.task c stage (p.step s m) := by
  cases case : p.cases[m.task]? with
  | none => exact .inl (by simp only [step, case])
  | some c =>
    cases at_ : s.stages[m.task]? with
    | none => exact .inl (by simp only [step, case, at_])
    | some stage =>
      rw [step_eq_move case at_]
      rcases p.move_cases s m.task m.time c stage with idle | change
      · exact .inl idle
      · exact .inr ⟨c, stage, rfl, rfl, change⟩

theorem Change.exists_move (change : p.Change s i c stage s') :
    ∃ time, p.move s i time c stage = s' := by
  cases change with
  | enter free => exact ⟨0, if_pos free⟩
  | ask => exact ⟨0, rfl⟩
  | refuse time refused => exact ⟨time, by simp only [move, refused]⟩
  | begin time opened => exact ⟨time, by simp only [move, opened]⟩
  | advance h => exact ⟨0, by simp only [move, h]⟩
  | finish ended => exact ⟨0, by simp only [move, ended]⟩

def Reached (p : Plan σ) (asked : List Nat) (i : Nat) (c : TestCase) : Stage σ → Prop
  | .waiting | .admitted => i ∉ asked
  | .opening number => asked[number]? = some i
  | .running rest world calls start => ∃ number state, asked[number]? = some i ∧
      p.opener number = .ok state ∧
      (c.runAndClose p.runner).perform p.page { page := state, now := start, ids := i } =
        let later := rest.perform p.page world
        { later with calls := calls ++ later.calls }
  | .finished report session => ∃ number start, asked[number]? = some i ∧
      visit p.page (p.opener number) p.runner i start c = (report, session)

theorem Reached.of_ask {asked : List Nat} {j : Nat} (h : p.Reached asked i c stage)
    (other : i ≠ j) : p.Reached (asked ++ [j]) i c stage := by
  have keeps : ∀ {number : Nat}, asked[number]? = some i → (asked ++ [j])[number]? = some i := by
    intro number found
    obtain ⟨bound, -⟩ := List.getElem?_eq_some_iff.mp found
    rw [List.getElem?_append_left bound, found]
  cases stage with
  | waiting =>
    simp only [Reached, List.mem_append, List.mem_singleton, not_or] at h ⊢
    exact ⟨h, other⟩
  | admitted =>
    simp only [Reached, List.mem_append, List.mem_singleton, not_or] at h ⊢
    exact ⟨h, other⟩
  | opening number => exact keeps h
  | running rest world calls start =>
    obtain ⟨number, state, found, opened⟩ := h
    exact ⟨number, state, keeps found, opened⟩
  | finished report session =>
    obtain ⟨number, start, found, visited⟩ := h
    exact ⟨number, start, keeps found, visited⟩

/-- The invariant of a batch. -/
structure Sound (p : Plan σ) (s : Progress σ) : Prop where
  length : s.stages.length = p.cases.length
  asked : s.asked.Nodup
  places : ∀ i ∈ s.asked, i < p.cases.length
  held : s.held ≤ p.slots
  reached : ∀ i c stage, p.cases[i]? = some c → s.stages[i]? = some stage →
    p.Reached s.asked i c stage
  results : ∀ i report, (i, report) ∈ s.results ↔
    ∃ session, s.stages[i]? = some (.finished report session)

theorem getElem?_start (p : Plan σ) (i : Nat) :
    p.start.stages[i]? = (p.cases[i]?).map fun _ => .waiting := List.getElem?_map

theorem start_sound (p : Plan σ) : p.Sound p.start where
  length := List.length_map _
  asked := List.nodup_nil
  places := nofun
  held := by
    have none : p.start.held = 0 := by
      refine List.countP_eq_zero.mpr fun stage member => ?_
      obtain ⟨c, -, rfl⟩ := List.mem_map.mp member
      exact Bool.false_ne_true
    rw [none]
    exact Nat.zero_le _
  reached i c stage case at_ := by
    rw [getElem?_start, case] at at_
    cases at_
    exact List.not_mem_nil
  results i report := by
    refine ⟨nofun, fun ⟨session, at_⟩ => ?_⟩
    rw [getElem?_start] at at_
    obtain ⟨c, -, ⟨⟩⟩ := Option.map_eq_some_iff.mp at_

theorem getElem?_put (at_ : s.stages[i]? = some stage) (stage' : Stage σ) (j : Nat) :
    (s.put i stage').stages[j]? = if i = j then some stage' else s.stages[j]? := by
  obtain ⟨bound, -⟩ := List.getElem?_eq_some_iff.mp at_
  simp only [Progress.put, List.getElem?_set, bound, if_true]

theorem held_put_le (at_ : s.stages[i]? = some stage) {stage' : Stage σ} {slots : Nat}
    (held : s.held ≤ slots)
    (room : stage'.holdsSlot = true → stage.holdsSlot = true ∨ s.held < slots) :
    (s.put i stage').held ≤ slots := by
  obtain ⟨bound, found⟩ := List.getElem?_eq_some_iff.mp at_
  simp only [Progress.held] at held room
  simp only [Progress.held, Progress.put, List.countP_set bound, found]
  by_cases holds : stage.holdsSlot = true
  · have positive : 0 < s.stages.countP Stage.holdsSlot :=
      List.countP_pos_iff.mpr ⟨stage, List.mem_of_getElem? at_, holds⟩
    simp only [holds, if_true]
    split <;> omega
  · simp only [holds, Bool.false_eq_true, if_false]
    split
    · rename_i takes
      have free := (room takes).resolve_left holds
      omega
    · omega

theorem Sound.put (sound : p.Sound s) (case : p.cases[i]? = some c)
    (at_ : s.stages[i]? = some stage) (busy : stage.isFinished = false) {stage' : Stage σ}
    (busy' : stage'.isFinished = false) (room : stage.holdsSlot = true ∨ s.held < p.slots)
    (reached : p.Reached s.asked i c stage') : p.Sound (s.put i stage') where
  length := by simp only [Progress.put, List.length_set, sound.length]
  asked := sound.asked
  places := sound.places
  held := held_put_le at_ sound.held fun _ => room
  reached j d other caseOf found := by
    rw [getElem?_put at_] at found
    split at found
    · rename_i same
      subst same
      rw [case] at caseOf
      cases caseOf
      cases found
      exact reached
    · exact sound.reached j d other caseOf found
  results j report := by
    rw [getElem?_put at_]
    split
    · rename_i same
      subst same
      change (i, report) ∈ s.results ↔ _
      rw [sound.results, at_]
      constructor
      · rintro ⟨session, ⟨⟩⟩
        cases busy
      · rintro ⟨session, ⟨⟩⟩
        cases busy'
    · exact sound.results j report

theorem Sound.ask (sound : p.Sound s) (case : p.cases[i]? = some c)
    (at_ : s.stages[i]? = some .admitted) : p.Sound (s.ask i) := by
  have fresh : i ∉ s.asked := sound.reached i c .admitted case at_
  have put : ∀ j, (s.ask i).stages[j]? =
      if i = j then some (.opening s.asked.length) else s.stages[j]? := getElem?_put at_ _
  constructor
  case length => simp only [Progress.ask, Progress.put, List.length_set, sound.length]
  case asked =>
    simp only [Progress.ask, List.nodup_append]
    refine ⟨sound.asked, by simp, ?_⟩
    rintro j asked _ last rfl
    exact fresh (List.mem_singleton.mp last ▸ asked)
  case places =>
    simp only [Progress.ask, List.forall_mem_append, List.forall_mem_singleton]
    exact ⟨sound.places, (List.getElem?_eq_some_iff.mp case).1⟩
  case held => exact held_put_le at_ sound.held fun _ => .inl rfl
  case reached =>
    intro j d other caseOf found
    rw [put] at found
    split at found
    · rename_i same
      subst same
      cases found
      exact List.getElem?_concat_length
    · rename_i other_
      exact (sound.reached j d other caseOf found).of_ask (Ne.symm other_)
  case results =>
    intro j report
    rw [put]
    split
    · rename_i same
      subst same
      change (i, report) ∈ s.results ↔ _
      rw [sound.results, at_]
      constructor <;> rintro ⟨session, ⟨⟩⟩
    · exact sound.results j report

theorem Sound.finish (sound : p.Sound s) (case : p.cases[i]? = some c)
    (at_ : s.stages[i]? = some stage) (busy : stage.isFinished = false)
    {report : Option RunReport} {session : Session σ}
    (reached : p.Reached s.asked i c (.finished report session)) :
    p.Sound (s.finish i report session) := by
  have put : ∀ j, (s.finish i report session).stages[j]? =
      if i = j then some (.finished report session) else s.stages[j]? := getElem?_put at_ _
  constructor
  case length => simp only [Progress.finish, Progress.put, List.length_set, sound.length]
  case asked => exact sound.asked
  case places => exact sound.places
  case held => exact held_put_le at_ sound.held nofun
  case reached =>
    intro j d other caseOf found
    rw [put] at found
    split at found
    · rename_i same
      subst same
      rw [case] at caseOf
      cases caseOf
      cases found
      exact reached
    · exact sound.reached j d other caseOf found
  case results =>
    intro j result
    have before : (i, result) ∉ s.results := by
      rw [sound.results, at_]
      rintro ⟨_, ⟨⟩⟩
      cases busy
    rw [put]
    change (j, result) ∈ s.results ++ [(i, report)] ↔ _
    rw [List.mem_append, List.mem_singleton]
    split
    · rename_i same
      subst same
      simp [before, eq_comm]
    · rename_i other
      simp [sound.results, Ne.symm other]

theorem Change.sound (change : p.Change s i c stage s') (sound : p.Sound s)
    (case : p.cases[i]? = some c) (at_ : s.stages[i]? = some stage) : p.Sound s' := by
  have reached := sound.reached i c stage case at_
  cases change with
  | enter free => exact sound.put case at_ rfl rfl (.inr free) reached
  | ask => exact sound.ask case at_
  | refuse time refused =>
    refine sound.finish case at_ rfl ⟨_, time, reached, ?_⟩
    simp only [visit, refused]
  | @begin number state time opened =>
    exact sound.put case at_ rfl rfl (.inl rfl) ⟨number, state, reached, opened, rfl⟩
  | advance h =>
    obtain ⟨number, state, found, opened, whole⟩ := reached
    refine sound.put case at_ rfl rfl (.inl rfl) ⟨number, state, found, opened, ?_⟩
    rw [whole, Play.perform_of_advance? h]
    simp only [List.append_assoc]
  | @finish rest world calls start ended =>
    obtain ⟨number, state, found, opened, whole⟩ := reached
    refine sound.finish case at_ rfl ⟨number, start, found, ?_⟩
    rw [Play.perform_of_advance?_none ended] at whole
    simp only [visit, opened, whole, List.append_nil]

theorem step_sound (sound : p.Sound s) (m : Move) : p.Sound (p.step s m) := by
  rcases step_cases (p := p) (s := s) m with idle | ⟨c, stage, case, at_, change⟩
  · rw [idle]
    exact sound
  · exact change.sound sound case at_

theorem foldl_sound (sound : p.Sound s) (moves : List Move) : p.Sound (moves.foldl p.step s) := by
  induction moves generalizing s with
  | nil => exact sound
  | cons m rest ih => exact ih (step_sound sound m)

theorem run_sound (p : Plan σ) (moves : List Move) : p.Sound (p.run moves) :=
  foldl_sound p.start_sound moves

theorem Sound.stage_of_finished (sound : p.Sound s) (finished : s.finished = true) {i : Nat}
    (bound : i < p.cases.length) :
    ∃ report session, s.stages[i]? = some (.finished report session) := by
  obtain ⟨stage, at_⟩ : ∃ stage, s.stages[i]? = some stage :=
    ⟨_, List.getElem?_eq_getElem (sound.length ▸ bound)⟩
  have ends : stage.isFinished = true :=
    List.all_eq_true.mp finished stage (List.mem_of_getElem? at_)
  cases stage with
  | finished report session => exact ⟨report, session, at_⟩
  | _ => cases ends

end Plan

namespace Sample

open Walkthrough.Sample (boom fragile rows start)

def blank : TestCase where
  description := "blank"
  steps := []

def desk : Opener MemoryPage := fun _ => .ok start.page

def trio : Plan MemoryPage :=
  .isolated MemoryPage.page desk fragile 2 [rows, boom, blank] (by decide)

def rounds (count : Nat) : List Move := (List.range count).map fun n => ⟨n % 3, n⟩

end Sample

end Walkthrough.Batch
