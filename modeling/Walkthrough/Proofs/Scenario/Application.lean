import Walkthrough.Proofs.Scenario.Expansion

/-!
The expansion of a case in place. The steps are gone through in order, and a path that cannot be
expanded ends it there: what was expanded by then stays so, and the rest is never touched.
-/
namespace Walkthrough

/-- The step goes to the path. Other steps may have a path too, but do not go to it. -/
def Step.GoesTo (s : Step) (path : String) : Prop := s.action = .goto ∧ s.path = some path

def Step.goal? (s : Step) : Option String := if s.action = .goto then s.path else none

theorem Step.goal?_iff {s : Step} {path : String} : s.goal? = some path ↔ s.GoesTo path := by
  unfold goal? GoesTo
  by_cases goes : s.action = .goto
  · simp only [goes, if_true, true_and]
  · simp only [goes, if_false, false_and, reduceCtorEq]

theorem Step.goal?_none_iff {s : Step} : s.goal? = none ↔ ∀ path, ¬s.GoesTo path := by
  simp only [Option.eq_none_iff_forall_ne_some, ne_eq, goal?_iff]

namespace Placeholders

open Placeholder (Piece Cut pieces cut_iff)

variable {p : Placeholders}

/-- A step before and after. The path of a step that goes somewhere is expanded; a step that goes
nowhere stays as it is. -/
inductive Expands (p : Placeholders) : Step → Step → Prop where
  | path {s : Step} {path result : String} (goes : s.GoesTo path)
      (expanded : p.expand path = .ok result) : Expands p s { s with path := some result }
  | same {s : Step} (stays : ∀ path, ¬s.GoesTo path) : Expands p s s

/-- Every placeholder in the path that the step goes to has a value. -/
def Ready (p : Placeholders) (s : Step) : Prop :=
  ∀ path ps, s.GoesTo path → Cut path.toList ps → ∀ name, .variable name ∈ ps → p.Defines name

/-- The step goes to a path, and this is the first of its placeholders that has no value. -/
def StopsAt (p : Placeholders) (s : Step) (name : List Char) : Prop :=
  ∃ path ps, s.GoesTo path ∧ Cut path.toList ps ∧ p.FirstLacking ps name

theorem applyStep_of_goesTo {s : Step} {path : String} (goes : s.GoesTo path) :
    p.applyStep s = (p.expand path).map fun result => { s with path := some result } := by
  obtain ⟨action, given⟩ := goes
  rw [applyStep, action, given]

theorem applyStep_of_stays {s : Step} (stays : ∀ path, ¬s.GoesTo path) :
    p.applyStep s = .ok s := by
  unfold applyStep
  split
  · next path action given => exact absurd ⟨action, given⟩ (stays path)
  · rfl

theorem applyStep_ok_iff {s t : Step} : p.applyStep s = .ok t ↔ p.Expands s t := by
  constructor
  · intro applied
    cases goal : s.goal? with
    | none =>
      have stays := Step.goal?_none_iff.mp goal
      rw [applyStep_of_stays stays] at applied
      cases applied
      exact .same stays
    | some path =>
      have goes := Step.goal?_iff.mp goal
      rw [applyStep_of_goesTo goes] at applied
      cases expanded : p.expand path with
      | error fault =>
        rw [expanded] at applied
        cases applied
      | ok result =>
        rw [expanded] at applied
        cases applied
        exact .path goes expanded
  · intro expands
    cases expands with
    | path goes expanded => rw [applyStep_of_goesTo goes, expanded, Except.map]
    | same stays => exact applyStep_of_stays stays

theorem applyStep_error_iff {s : Step} {fault : PlaceholderFault} :
    p.applyStep s = .error fault ↔
      ∃ name, p.StopsAt s name ∧ fault = .undefined (String.ofList name) := by
  constructor
  · intro fails
    cases goal : s.goal? with
    | none =>
      rw [applyStep_of_stays (Step.goal?_none_iff.mp goal)] at fails
      cases fails
    | some path =>
      have goes := Step.goal?_iff.mp goal
      rw [applyStep_of_goesTo goes] at fails
      cases expanded : p.expand path with
      | ok result =>
        rw [expanded] at fails
        cases fails
      | error early =>
        rw [expanded] at fails
        cases fails
        obtain ⟨name, first, named⟩ := expand_fails_iff.mp expanded
        exact ⟨name, ⟨path, _, goes, Placeholder.cut_pieces _, first⟩, named⟩
  · intro stops
    obtain ⟨name, ⟨path, ps, goes, cut, first⟩, named⟩ := stops
    rw [cut_iff] at cut
    subst cut
    rw [applyStep_of_goesTo goes, expand_fails_iff.mpr ⟨name, first, named⟩]
    rfl

theorem ready_iff {s : Step} : p.Ready s ↔ ∃ t, p.Expands s t := by
  constructor
  · intro ready
    cases goal : s.goal? with
    | none => exact ⟨s, .same (Step.goal?_none_iff.mp goal)⟩
    | some path =>
      have goes := Step.goal?_iff.mp goal
      obtain ⟨result, expanded⟩ := (expand_succeeds_iff p path).mpr
        (ready path _ goes (Placeholder.cut_pieces _))
      exact ⟨_, .path goes expanded⟩
  · intro expands path ps goes cut
    obtain ⟨t, expands⟩ := expands
    rw [cut_iff] at cut
    subst cut
    cases expands with
    | path goes' expanded =>
      obtain rfl : _ = path := Option.some.inj (goes'.2.symm.trans goes.2)
      exact (expand_succeeds_iff p _).mp ⟨_, expanded⟩
    | same stays => exact absurd goes (stays path)

theorem ready_of_isOk {s : Step} (succeeds : (p.applyStep s).isOk = true) : p.Ready s := by
  cases applied : p.applyStep s with
  | ok t => exact ready_iff.mpr ⟨t, applyStep_ok_iff.mp applied⟩
  | error fault =>
    rw [applied] at succeeds
    cases succeeds

theorem stopsAt_of_isOk_eq_false {s : Step} (fails : (p.applyStep s).isOk = false) :
    ∃ name, p.StopsAt s name := by
  cases applied : p.applyStep s with
  | ok t =>
    rw [applied] at fails
    cases fails
  | error fault =>
    obtain ⟨name, stops, -⟩ := applyStep_error_iff.mp applied
    exact ⟨name, stops⟩

theorem not_ready_of_stopsAt {s : Step} {name : List Char} (stops : p.StopsAt s name) :
    ¬p.Ready s := by
  intro ready
  obtain ⟨t, expands⟩ := ready_iff.mp ready
  have fails := applyStep_error_iff.mpr ⟨name, stops, rfl⟩
  cases (applyStep_ok_iff.mpr expands).symm.trans fails

theorem applySteps_append {before expanded : List Step}
    (expands : List.Forall₂ p.Expands before expanded) (rest : List Step) :
    p.applySteps (before ++ rest) =
      (expanded ++ (p.applySteps rest).1, (p.applySteps rest).2) := by
  induction expands with
  | nil => rfl
  | cons first others ih =>
    rw [List.cons_append, applySteps, applyStep_ok_iff.mpr first, ih]
    rfl

theorem ready_of_expands {steps expanded : List Step}
    (expands : List.Forall₂ p.Expands steps expanded) : ∀ s ∈ steps, p.Ready s := by
  induction expands with
  | nil =>
    intro s member
    cases member
  | cons first others ih =>
    intro s member
    rcases List.mem_cons.mp member with rfl | later
    · exact ready_iff.mpr ⟨_, first⟩
    · exact ih s later

theorem expands_of_ready {steps : List Step} (ready : ∀ s ∈ steps, p.Ready s) :
    ∃ expanded, List.Forall₂ p.Expands steps expanded := by
  induction steps with
  | nil => exact ⟨[], .nil⟩
  | cons s rest ih =>
    obtain ⟨t, first⟩ := ready_iff.mp (ready s List.mem_cons_self)
    obtain ⟨expanded, others⟩ := ih fun s' member => ready s' (List.mem_cons_of_mem s member)
    exact ⟨t :: expanded, .cons first others⟩

/-- How the steps end up, with the fault. Those before the one that stops the expansion are
expanded, and that one and all after it are left alone. -/
inductive Ends (p : Placeholders) : List Step → List Step × Option PlaceholderFault → Prop where
  | finished {steps expanded : List Step} (all : List.Forall₂ p.Expands steps expanded) :
      Ends p steps (expanded, none)
  | stopped {before expanded rest : List Step} {s : Step} {name : List Char}
      (first : List.Forall₂ p.Expands before expanded) (stops : p.StopsAt s name) :
      Ends p (before ++ s :: rest)
        (expanded ++ s :: rest, some (.undefined (String.ofList name)))

theorem Ends.cons {s t : Step} {rest : List Step} {result : List Step × Option PlaceholderFault}
    (first : p.Expands s t) (ends : p.Ends rest result) :
    p.Ends (s :: rest) (t :: result.1, result.2) := by
  cases ends with
  | finished all => exact .finished (.cons first all)
  | stopped before stops => exact .stopped (.cons first before) stops

theorem applySteps_ends (p : Placeholders) (steps : List Step) :
    p.Ends steps (p.applySteps steps) := by
  induction steps with
  | nil => exact .finished .nil
  | cons s rest ih =>
    rw [applySteps]
    cases applied : p.applyStep s with
    | error fault =>
      obtain ⟨name, stops, rfl⟩ := applyStep_error_iff.mp applied
      exact .stopped .nil stops
    | ok t => exact ih.cons (applyStep_ok_iff.mp applied)

theorem applySteps_iff {steps : List Step} {result : List Step × Option PlaceholderFault} :
    p.applySteps steps = result ↔ p.Ends steps result := by
  constructor
  · intro applied
    rw [← applied]
    exact applySteps_ends p steps
  · intro ends
    cases ends with
    | finished all =>
      have expanded := applySteps_append all []
      rwa [List.append_nil, applySteps, List.append_nil] at expanded
    | stopped before stops =>
      have fails := applyStep_error_iff.mpr ⟨_, stops, rfl⟩
      rw [applySteps_append before, applySteps, fails]

theorem applySteps_fault_eq (p : Placeholders) (steps : List Step) :
    (p.applySteps steps).2 = (steps.filterMap Step.goal?).findSome? fun path =>
      match p.expand path with
      | .ok _ => none
      | .error fault => some fault := by
  induction steps with
  | nil => rfl
  | cons s rest ih =>
    cases goal : s.goal? with
    | none =>
      rw [List.filterMap_cons_none goal, ← ih, applySteps,
        applyStep_of_stays (Step.goal?_none_iff.mp goal)]
    | some path =>
      rw [List.filterMap_cons_some goal, List.findSome?_cons, ← ih, applySteps,
        applyStep_of_goesTo (Step.goal?_iff.mp goal)]
      cases p.expand path <;> rfl

/-- A step stays as it is, but for the path that it goes to. -/
def PathOnly (s t : Step) : Prop :=
  t = s ∨ ∃ path result, s.GoesTo path ∧ t = { s with path := some result }

theorem Expands.pathOnly {s t : Step} (expands : p.Expands s t) : PathOnly s t := by
  cases expands with
  | path goes expanded => exact .inr ⟨_, _, goes, rfl⟩
  | same stays => exact .inl rfl

theorem Ends.pathOnly {steps : List Step} {result : List Step × Option PlaceholderFault}
    (ends : p.Ends steps result) : List.Forall₂ PathOnly steps result.1 := by
  have expanded {before after : List Step} (all : List.Forall₂ p.Expands before after) :
      List.Forall₂ PathOnly before after := all.imp fun _ _ => Expands.pathOnly
  cases ends with
  | finished all => exact expanded all
  | stopped before stops =>
    exact List.rel_append (expanded before) (List.forall₂_same.mpr fun _ _ => .inl rfl)

theorem Ends.fault_eq_none_iff {steps : List Step}
    {result : List Step × Option PlaceholderFault} (ends : p.Ends steps result) :
    result.2 = none ↔ ∀ s ∈ steps, p.Ready s := by
  cases ends with
  | finished all => exact ⟨fun _ => ready_of_expands all, fun _ => rfl⟩
  | stopped before stops =>
    constructor
    · intro none_
      cases none_
    · intro ready
      exact absurd (ready _ (by simp)) (not_ready_of_stopsAt stops)

theorem Ends.expands {steps : List Step} {result : List Step × Option PlaceholderFault}
    (ends : p.Ends steps result) (none_ : result.2 = none) :
    List.Forall₂ p.Expands steps result.1 := by
  cases ends with
  | finished all => exact all
  | stopped before stops => cases none_

theorem applySteps_of_stopsAt {before : List Step} {s : Step} {name : List Char}
    (ready : ∀ earlier ∈ before, p.Ready earlier) (stops : p.StopsAt s name) (rest : List Step) :
    ∃ expanded, List.Forall₂ p.Expands before expanded ∧ p.applySteps (before ++ s :: rest) =
      (expanded ++ s :: rest, some (.undefined (String.ofList name))) := by
  obtain ⟨expanded, first⟩ := expands_of_ready ready
  exact ⟨expanded, first, applySteps_iff.mpr (.stopped first stops)⟩

theorem applySteps_fault_iff {steps : List Step} {fault : PlaceholderFault} :
    (p.applySteps steps).2 = some fault ↔ ∃ before s rest name, steps = before ++ s :: rest ∧
      (∀ earlier ∈ before, p.Ready earlier) ∧ p.StopsAt s name ∧
        fault = .undefined (String.ofList name) := by
  constructor
  · intro fails
    have ends := applySteps_ends p steps
    generalize p.applySteps steps = result at ends fails
    cases ends with
    | finished all => cases fails
    | stopped before stops =>
      cases fails
      exact ⟨_, _, _, _, rfl, ready_of_expands before, stops, rfl⟩
  · intro half
    obtain ⟨before, s, rest, name, rfl, ready, stops, rfl⟩ := half
    obtain ⟨expanded, _, stopped⟩ := applySteps_of_stopsAt ready stops rest
    rw [stopped]

/-- What the expansion of a case leaves, and the fault that it ends with. -/
structure Application (p : Placeholders) (c after : TestCase) (fault : Option PlaceholderFault) :
    Prop where
  /-- Nothing but the paths that steps go to can change. -/
  frame : after = { c with steps := after.steps } ∧ List.Forall₂ PathOnly c.steps after.steps
  succeeds : fault = none ↔ ∀ s ∈ c.steps, p.Ready s
  expanded : fault = none → List.Forall₂ p.Expands c.steps after.steps
  /-- The fault names the first placeholder without a value of the first step that has one. -/
  fails : ∀ f, fault = some f ↔ ∃ before s rest name, c.steps = before ++ s :: rest ∧
    (∀ earlier ∈ before, p.Ready earlier) ∧ p.StopsAt s name ∧ f = .undefined (String.ofList name)
  /-- That step and all steps after it are left alone. -/
  stops : ∀ before s rest name, c.steps = before ++ s :: rest →
    (∀ earlier ∈ before, p.Ready earlier) → p.StopsAt s name →
      ∃ expanded, List.Forall₂ p.Expands before expanded ∧ after.steps = expanded ++ s :: rest
  /-- Placeholders anywhere else never matter to the fault. -/
  elsewhere : ∀ other : TestCase,
    other.steps.filterMap Step.goal? = c.steps.filterMap Step.goal? → (p.apply other).2 = fault

/-- A case is expanded up to the first step that goes to a path with a placeholder without value. -/
theorem apply_up_to_fault (p : Placeholders) (c : TestCase) :
    p.Application c (p.apply c).1 (p.apply c).2 := by
  have ends := applySteps_ends p c.steps
  refine ⟨⟨rfl, ends.pathOnly⟩, ends.fault_eq_none_iff, ends.expands,
    fun f => applySteps_fault_iff, ?stops, ?elsewhere⟩
  case stops =>
    intro before s rest name parts ready stops
    obtain ⟨expanded, first, stopped⟩ := applySteps_of_stopsAt ready stops rest
    rw [← parts] at stopped
    exact ⟨expanded, first, congrArg Prod.fst stopped⟩
  case elsewhere =>
    intro other same
    rw [apply, apply, applySteps_fault_eq, applySteps_fault_eq, same]

namespace Sample

def known : Placeholders := { values := [("A", "\x7bB\x7d")] }

/-- The second step has a path but does not go to it, and the third path has a placeholder without
a value behind one with a value. -/
def halfway : TestCase where
  description := "halfway"
  steps := [{ action := .goto, path := some "/$\x7bA\x7d" },
    { action := .fill, path := some "$\x7bD\x7d" },
    { action := .goto, path := some "/$\x7bA\x7d/$\x7bD\x7d" },
    { action := .goto, path := some "/$\x7bA\x7d" }]

theorem halfway_applied :
    (known.apply halfway).2 = some (.undefined "D") ∧
      ∃ expanded, List.Forall₂ known.Expands (halfway.steps.take 2) expanded ∧
        (known.apply halfway).1.steps = expanded ++ halfway.steps.drop 2 ∧
          expanded.map (·.path) = [some "/\x7bB\x7d", some "$\x7bD\x7d"] := by
  have applied := apply_up_to_fault known halfway
  have ready : ∀ s ∈ halfway.steps.take 2, known.Ready s := by
    intro s member
    refine ready_of_isOk ?_
    revert s
    decide +kernel
  obtain ⟨name, stops⟩ : ∃ name, known.StopsAt halfway.steps[2] name :=
    stopsAt_of_isOk_eq_false (by decide +kernel)
  obtain ⟨expanded, expands, left⟩ := applied.stops (halfway.steps.take 2) _ _ _ rfl ready stops
  refine ⟨by decide +kernel, expanded, expands, left, ?_⟩
  have paths : ((known.apply halfway).1.steps.map (·.path)).take 2 =
      [some "/\x7bB\x7d", some "$\x7bD\x7d"] := by decide +kernel
  rw [left, List.map_append, List.take_left' (by simp [← expands.length_eq, halfway])] at paths
  exact paths

end Sample

end Placeholders

end Walkthrough
