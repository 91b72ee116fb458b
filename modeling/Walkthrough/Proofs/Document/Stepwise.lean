import Walkthrough.Handler.Builtin
import Walkthrough.Proofs.Document.Problems

/-!
A test case is checked step by step. The problems of a longer case are those of its first steps and,
after them, those of the others under later numbers, so no step hides or changes what is wrong with
another. The limit of steps alone is about the case as a whole.
-/
namespace Walkthrough

namespace Problem

def later (more : Nat) : Problem → Problem
  | .emptyTestCase => .emptyTestCase
  | .tooManySteps count limit => .tooManySteps count limit
  | .inStep step p => .inStep (step + more) p
  | .inValidation step validation p => .inValidation (step + more) validation p

def ofStep : Problem → Bool
  | .emptyTestCase | .tooManySteps _ _ => false
  | .inStep _ _ | .inValidation _ _ _ => true

def isTooMany : Problem → Bool
  | .tooManySteps _ _ => true
  | _ => false

def validation? : Problem → Option Nat
  | .inValidation _ validation _ => some validation
  | _ => none

theorem isTooMany_of_ofStep {p : Problem} (own : p.ofStep = true) : p.isTooMany = false := by
  cases p <;> simp_all [ofStep, isTooMany]

end Problem

variable {r : Registry}

theorem Validation.problems_later (v : Validation) (step validation more : Nat) (selects : Bool) :
    (v.problems r step validation selects).map (.later more) =
      v.problems r (step + more) validation selects := by
  simp [problems, Problem.later, Function.comp_def]

theorem Validation.ofStep_of_mem_problems {v : Validation} {step validation : Nat} {selects : Bool}
    {p : Problem} (found : p ∈ v.problems r step validation selects) : p.ofStep = true := by
  simp only [problems, List.mem_append, List.mem_map] at found
  rcases found with ⟨_, _, rfl⟩ | ⟨_, _, rfl⟩ <;> rfl

theorem Validation.inValidation_mem_problems_iff {v : Validation} {n m step validation : Nat}
    {selects : Bool} {p : ValidationProblem} :
    .inValidation n m p ∈ v.problems r step validation selects ↔
      n = step ∧ m = validation ∧ p ∈ v.kindProblems r ++ v.selectorProblems selects := by
  simp only [problems, List.mem_append, List.mem_map, reduceCtorEq, and_false, exists_false,
    false_or, Problem.inValidation.injEq]
  constructor
  · rintro ⟨q, found, rfl, rfl, rfl⟩
    exact ⟨rfl, rfl, found⟩
  · rintro ⟨rfl, rfl, found⟩
    exact ⟨p, found, rfl, rfl, rfl⟩

namespace Step

theorem validationProblems_later (s : Step) (step validation more : Nat) (vs : List Validation) :
    (s.validationProblems r step validation vs).map (.later more) =
      s.validationProblems r (step + more) validation vs := by
  induction vs generalizing validation with
  | nil => rfl
  | cons v rest ih =>
    simp only [validationProblems, List.map_append, Validation.problems_later, ih]

theorem problems_later (s : Step) (step more : Nat) :
    (s.problems r step).map (.later more) = s.problems r (step + more) := by
  simp only [problems, List.map_append, validationProblems_later, List.map_map]
  rfl

theorem ofStep_of_mem_validationProblems {s : Step} {step validation : Nat} {vs : List Validation}
    {p : Problem} (found : p ∈ s.validationProblems r step validation vs) : p.ofStep = true := by
  induction vs generalizing validation with
  | nil => cases found
  | cons v rest ih =>
    rcases List.mem_append.mp found with first | later
    · exact Validation.ofStep_of_mem_problems first
    · exact ih later

theorem ofStep_of_mem_problems {s : Step} {step : Nat} {p : Problem}
    (found : p ∈ s.problems r step) : p.ofStep = true := by
  rcases List.mem_append.mp found with own | ofValidation
  · obtain ⟨_, -, rfl⟩ := List.mem_map.mp own
    rfl
  · exact ofStep_of_mem_validationProblems ofValidation

theorem inValidation_mem_validationProblems_iff {s : Step} {n m step validation : Nat}
    {p : ValidationProblem} {vs : List Validation} :
    .inValidation n m p ∈ s.validationProblems r step validation vs ↔
      n = step ∧ ∃ j v, vs[j]? = some v ∧ m = validation + j ∧
        p ∈ v.kindProblems r ++ v.selectorProblems s.selects := by
  induction vs generalizing validation with
  | nil => simp [validationProblems]
  | cons first rest ih =>
    rw [validationProblems, List.mem_append, Validation.inValidation_mem_problems_iff, ih]
    constructor
    · rintro (⟨rfl, rfl, found⟩ | ⟨rfl, j, v, at_, rfl, found⟩)
      · exact ⟨rfl, 0, first, rfl, rfl, found⟩
      · exact ⟨rfl, j + 1, v, at_, by omega, found⟩
    · rintro ⟨rfl, _ | j, v, at_, rfl, found⟩
      · obtain rfl : first = v := by simpa using at_
        exact .inl ⟨rfl, rfl, found⟩
      · exact .inr ⟨rfl, j, v, at_, by omega, found⟩

/-- What is wrong with the validation of that number, its selector's kind apart. -/
def Flawed (s : Step) (r : Registry) (number : Nat) (p : ValidationProblem) : Prop :=
  ∃ j v, s.validations[j]? = some v ∧ number = j + 1 ∧
    p ∈ v.kindProblems r ++ v.selectorProblems s.selects

theorem inValidation_mem_problems_iff {s : Step} {n m step : Nat} {p : ValidationProblem} :
    .inValidation n m p ∈ s.problems r step ↔ n = step ∧ s.Flawed r m p := by
  have own : .inValidation n m p ∉ (s.ownProblems r).map (Problem.inStep step) := by simp
  simp only [problems, List.mem_append, own, false_or, inValidation_mem_validationProblems_iff,
    Flawed, Nat.add_comm 1]

end Step

namespace TestCase

theorem stepProblems_append (number : Nat) (before after : List Step) :
    stepProblems r number (before ++ after) =
      stepProblems r number before ++ stepProblems r (number + before.length) after := by
  induction before generalizing number with
  | nil => rfl
  | cons s rest ih =>
    simp only [List.cons_append, stepProblems, ih, List.append_assoc, List.length_cons,
      Nat.add_assoc, Nat.add_comm 1]

theorem stepProblems_later (number more : Nat) (steps : List Step) :
    (stepProblems r number steps).map (.later more) = stepProblems r (number + more) steps := by
  induction steps generalizing number with
  | nil => rfl
  | cons s rest ih =>
    simp only [stepProblems, List.map_append, Step.problems_later, ih, Nat.add_right_comm]

theorem ofStep_of_mem_stepProblems {number : Nat} {steps : List Step} {p : Problem}
    (found : p ∈ stepProblems r number steps) : p.ofStep = true := by
  induction steps generalizing number with
  | nil => cases found
  | cons s rest ih =>
    rcases List.mem_append.mp found with first | later
    · exact Step.ofStep_of_mem_problems first
    · exact ih later

theorem inValidation_mem_stepProblems_iff {n m number : Nat} {p : ValidationProblem}
    {steps : List Step} : .inValidation n m p ∈ stepProblems r number steps ↔
      ∃ i s, steps[i]? = some s ∧ n = number + i ∧ s.Flawed r m p := by
  induction steps generalizing number with
  | nil => simp [stepProblems]
  | cons first rest ih =>
    rw [stepProblems, List.mem_append, Step.inValidation_mem_problems_iff, ih]
    constructor
    · rintro (⟨rfl, flawed⟩ | ⟨i, s, at_, rfl, flawed⟩)
      · exact ⟨0, first, rfl, rfl, flawed⟩
      · exact ⟨i + 1, s, at_, by omega, flawed⟩
    · rintro ⟨_ | i, s, at_, rfl, flawed⟩
      · obtain rfl : first = s := by simpa using at_
        exact .inl ⟨rfl, flawed⟩
      · exact .inr ⟨i, s, at_, by omega, flawed⟩

def withSteps (c : TestCase) (steps : List Step) : TestCase := { c with steps }

def besidesLength (c : TestCase) (r : Registry) (settings : RunSettings) : List Problem :=
  (c.problems r settings).filter (!·.isTooMany)

variable {settings : RunSettings} {c : TestCase}

theorem problems_of_steps (some_ : c.steps ≠ []) : c.problems r settings =
    (if settings.maxSteps < c.steps.length then
      [.tooManySteps c.steps.length settings.maxSteps] else []) ++ stepProblems r 1 c.steps := by
  rw [problems, if_neg (by simpa using some_)]

theorem besidesLength_eq (some_ : c.steps ≠ []) :
    c.besidesLength r settings = stepProblems r 1 c.steps := by
  have length : (if settings.maxSteps < c.steps.length then
      [Problem.tooManySteps c.steps.length settings.maxSteps] else []).filter
        (!·.isTooMany) = [] := by
    split <;> rfl
  rw [besidesLength, problems_of_steps some_, List.filter_append, length, List.nil_append,
    List.filter_eq_self]
  intro p found
  simp [Problem.isTooMany_of_ofStep (ofStep_of_mem_stepProblems found)]

theorem besidesLength_withSteps {steps : List Step} (some_ : steps ≠ []) :
    (c.withSteps steps).besidesLength r settings = stepProblems r 1 steps :=
  besidesLength_eq some_

theorem problems_eq_nil_iff (some_ : c.steps ≠ []) : c.problems r settings = [] ↔
    c.steps.length ≤ settings.maxSteps ∧ stepProblems r 1 c.steps = [] := by
  rw [problems_of_steps some_, List.append_eq_nil_iff]
  refine and_congr_left fun _ => ?_
  rw [ite_eq_right_iff, ← Nat.not_lt]
  simp

/-- Whether steps have problems does not depend on the number of the first. -/
theorem stepProblems_eq_nil_iff (number : Nat) (steps : List Step) :
    stepProblems r number steps = [] ↔ ∀ s ∈ steps, stepProblems r 1 [s] = [] := by
  have renumbered (s : Step) (n m : Nat) : s.problems r n = [] ↔ s.problems r m = [] := by
    rw [← List.map_eq_nil_iff, Step.problems_later s n m, Nat.add_comm, ← Step.problems_later,
      List.map_eq_nil_iff]
  induction steps generalizing number with
  | nil => simp [stepProblems]
  | cons s rest ih =>
    simp only [stepProblems, List.append_eq_nil_iff, ih (number + 1), List.forall_mem_cons,
      renumbered s number 1, and_true]

theorem stepProblems_eq_flatMap (number : Nat) (steps : List Step) :
    stepProblems r (1 + number) steps =
      (steps.zipIdx number).flatMap fun (s, i) => (stepProblems r 1 [s]).map (.later i) := by
  induction steps generalizing number with
  | nil => rfl
  | cons s rest ih =>
    have alone : (stepProblems r 1 [s]).map (.later number) = s.problems r (1 + number) := by
      rw [stepProblems_later, stepProblems, stepProblems, List.append_nil]
    rw [List.zipIdx_cons, List.flatMap_cons, ← ih (number + 1), stepProblems, Nat.add_assoc]
    exact congrArg (· ++ stepProblems r (1 + (number + 1)) rest) alone.symm

/-- How the problems of a test case come from its steps. Those of the first steps are the ones that
these have by themselves and those of the others are only told of later numbers. Each names the step
that it is about and, unless it is about a kind of selector, the validation. A case is accepted when
it is not too long and each of its steps is accepted by itself. -/
structure CheckedByStep (c : TestCase) (r : Registry) (settings : RunSettings) : Prop where
  append : ∀ before after, before ≠ [] → after ≠ [] → c.steps = before ++ after →
    c.besidesLength r settings = (c.withSteps before).besidesLength r settings ++
      ((c.withSteps after).besidesLength r settings).map (.later before.length)
  eachByItself : c.besidesLength r settings = c.steps.zipIdx.flatMap fun (s, i) =>
    ((c.withSteps [s]).besidesLength r settings).map (.later i)
  ofSteps : ∀ p ∈ c.besidesLength r settings, p.ofStep = true
  inStep : ∀ n p, .inStep n p ∈ c.problems r settings ↔
    ∃ i s, c.steps[i]? = some s ∧ n = i + 1 ∧ s.Has r p
  inValidation : ∀ n m p, .inValidation n m p ∈ c.problems r settings ↔
    ∃ i s, c.steps[i]? = some s ∧ n = i + 1 ∧ s.Flawed r m p
  tooMany : ∀ count limit, .tooManySteps count limit ∈ c.problems r settings ↔
    count = c.steps.length ∧ limit = settings.maxSteps ∧ limit < count
  accepted : c.problems r settings = [] ↔ c.steps.length ≤ settings.maxSteps ∧
    ∀ s ∈ c.steps, (c.withSteps [s]).problems r settings = []

theorem mem_problems_of_ofStep (some_ : c.steps ≠ []) {p : Problem} (own : p.ofStep = true) :
    p ∈ c.problems r settings ↔ p ∈ stepProblems r 1 c.steps := by
  have besides : c.besidesLength r settings = stepProblems r 1 c.steps := besidesLength_eq some_
  rw [← besides, besidesLength, List.mem_filter]
  simp [Problem.isTooMany_of_ofStep own]

theorem tooManySteps_mem_problems_iff (some_ : c.steps ≠ []) {count limit : Nat} :
    .tooManySteps count limit ∈ c.problems r settings ↔
      count = c.steps.length ∧ limit = settings.maxSteps ∧ limit < count := by
  have notOfStep : .tooManySteps count limit ∉ stepProblems r 1 c.steps := fun found =>
    absurd (ofStep_of_mem_stepProblems found) (by simp [Problem.ofStep])
  rw [problems_of_steps some_, List.mem_append, or_iff_left notOfStep]
  split
  · next long =>
    simp only [List.mem_singleton, Problem.tooManySteps.injEq]
    exact ⟨fun ⟨count, limit⟩ => ⟨count, limit, count ▸ limit ▸ long⟩,
      fun ⟨count, limit, _⟩ => ⟨count, limit⟩⟩
  · next short =>
    simp only [List.not_mem_nil, false_iff]
    rintro ⟨rfl, rfl, long⟩
    exact short long

theorem accepted_iff (some_ : c.steps ≠ []) : c.problems r settings = [] ↔
    c.steps.length ≤ settings.maxSteps ∧
      ∀ s ∈ c.steps, (c.withSteps [s]).problems r settings = [] := by
  rw [problems_eq_nil_iff some_, stepProblems_eq_nil_iff]
  refine and_congr_right fun short => ?_
  have first : 0 < c.steps.length := List.length_pos_iff.mpr some_
  have single (s : Step) : [s].length ≤ settings.maxSteps := by
    simp only [List.length_singleton]
    omega
  have alone (s : Step) :
      (c.withSteps [s]).problems r settings = [] ↔ stepProblems r 1 [s] = [] :=
    (problems_eq_nil_iff (c := c.withSteps [s]) (by simp [withSteps])).trans
      (and_iff_right (single s))
  simp only [alone]

/-- Every test case with steps is checked step by step. -/
theorem checked_by_step (c : TestCase) (r : Registry) (settings : RunSettings)
    (some_ : c.steps ≠ []) : c.CheckedByStep r settings where
  append before after first others steps := by
    rw [besidesLength_eq some_, besidesLength_withSteps first, besidesLength_withSteps others,
      steps, stepProblems_append, stepProblems_later]
  eachByItself := by
    simp only [besidesLength_eq some_, besidesLength_withSteps (List.cons_ne_nil _ _)]
    exact stepProblems_eq_flatMap 0 c.steps
  ofSteps p found := by
    rw [besidesLength_eq some_] at found
    exact ofStep_of_mem_stepProblems found
  inStep n p := by
    simp only [mem_problems_of_ofStep some_ (p := .inStep n p) rfl, inStep_mem_stepProblems_iff,
      Nat.add_comm 1]
  inValidation n m p := by
    simp only [mem_problems_of_ofStep some_ (p := .inValidation n m p) rfl,
      inValidation_mem_stepProblems_iff, Nat.add_comm 1]
  tooMany _ _ := tooManySteps_mem_problems_iff some_
  accepted := accepted_iff some_

end TestCase

namespace Sample

def faultySteps : TestCase where
  description := "faults"
  steps := [
    { action := .unknown "doubleClick" },
    { action := .goto
      validations := [
        { kind := .toBeVisible }, { kind := .toHaveAttribute, selector := some "a" }] },
    { action := .upload, strategy := some (.unknown "role") }]

theorem faultySteps_checked_by_step :
    faultySteps.steps ≠ [] ∧ faultySteps.CheckedByStep .builtin {} :=
  ⟨List.cons_ne_nil _ _, faultySteps.checked_by_step .builtin {} (List.cons_ne_nil _ _)⟩

def titles (first second : Option Strategy) : TestCase where
  description := "titles"
  steps := [{ action := .goto, validations := [
    { kind := .toHaveTitle, strategy := first }, { kind := .toHaveTitle, strategy := second }] }]

/-- The problem of a selector of unknown kind does not name the validation: it is the same for the
first and for the second. -/
theorem titles_unnamed :
    (titles none (some (.unknown "role"))).problems .builtin {} =
        [.inStep 1 (.unknownSelectorType "role")] ∧
      (titles (some (.unknown "role")) none).problems .builtin {} =
        [.inStep 1 (.unknownSelectorType "role")] ∧
      (titles none none).problems .builtin {} = [] ∧
      (Problem.inStep 1 (.unknownSelectorType "role")).validation? = none ∧
      (Problem.inStep 1 (.unknownSelectorType "role")).message =
        "Step 1: selectorType 'role' não suportado. Tipos válidos: css, xpath, id, text, testId" :=
  ⟨rfl, rfl, rfl, rfl, rfl⟩

end Sample

end Walkthrough
