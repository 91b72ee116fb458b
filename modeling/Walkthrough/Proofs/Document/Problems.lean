import Walkthrough.Preflight

/-!
Where problems come from. A problem that is told of the step with a number is one of that very step,
whatever else is wrong with the case.
-/
namespace Walkthrough

/-- A problem of the step itself, or one of its validations selects in a way that is not known. -/
inductive Step.Has (s : Step) (r : Registry) : StepProblem → Prop where
  | own {p : StepProblem} (found : p ∈ s.ownProblems r) : Has s r p
  | inherited {v : Validation} {name : String} (member : v ∈ s.validations)
      (strategy : v.selection.unknownStrategy? = some name) : Has s r (.unknownSelectorType name)

variable {r : Registry} {n m : Nat} {p : StepProblem}

theorem Validation.inStep_mem_problems_iff {v : Validation} {validation : Nat} {selects : Bool} :
    .inStep n p ∈ v.problems r m validation selects ↔
      n = m ∧ ∃ name, v.selection.unknownStrategy? = some name ∧ p = .unknownSelectorType name := by
  simp [problems, and_left_comm, eq_comm (a := m), eq_comm (b := p)]

theorem Step.inStep_mem_validationProblems_iff {s : Step} {validation : Nat}
    {vs : List Validation} : .inStep n p ∈ s.validationProblems r m validation vs ↔
      n = m ∧ ∃ v ∈ vs, ∃ name, v.selection.unknownStrategy? = some name ∧
        p = .unknownSelectorType name := by
  induction vs generalizing validation with
  | nil => simp [validationProblems]
  | cons v rest ih =>
    simp only [validationProblems, List.mem_append, Validation.inStep_mem_problems_iff, ih,
      List.mem_cons, or_and_right, exists_or, exists_eq_left, and_or_left]

theorem Step.inStep_mem_problems_iff {s : Step} : .inStep n p ∈ s.problems r m ↔
    n = m ∧ s.Has r p := by
  have own : .inStep n p ∈ (s.ownProblems r).map (Problem.inStep m) ↔
      n = m ∧ p ∈ s.ownProblems r := by
    simp only [List.mem_map, Problem.inStep.injEq]
    exact ⟨fun ⟨_, found, number, same⟩ => ⟨number.symm, same ▸ found⟩,
      fun ⟨number, found⟩ => ⟨p, found, number.symm, rfl⟩⟩
  rw [problems, List.mem_append, own, inStep_mem_validationProblems_iff, ← and_or_left]
  refine and_congr_right fun _ => ⟨?_, ?_⟩
  · rintro (found | ⟨v, member, name, strategy, rfl⟩)
    · exact .own found
    · exact .inherited member strategy
  · rintro (found | ⟨member, strategy⟩)
    · exact .inl found
    · exact .inr ⟨_, member, _, strategy, rfl⟩

namespace TestCase

theorem inStep_mem_stepProblems_iff {number : Nat} {steps : List Step} :
    .inStep n p ∈ stepProblems r number steps ↔
      ∃ i s, steps[i]? = some s ∧ n = number + i ∧ s.Has r p := by
  induction steps generalizing number with
  | nil => simp [stepProblems]
  | cons first rest ih =>
    rw [stepProblems, List.mem_append, Step.inStep_mem_problems_iff, ih]
    constructor
    · rintro (⟨rfl, has⟩ | ⟨i, s, at_, rfl, has⟩)
      · exact ⟨0, first, rfl, rfl, has⟩
      · exact ⟨i + 1, s, at_, by omega, has⟩
    · rintro ⟨_ | i, s, at_, rfl, has⟩
      · obtain rfl : first = s := by simpa using at_
        exact .inl ⟨rfl, has⟩
      · exact .inr ⟨i, s, at_, by omega, has⟩

theorem inStep_mem_problems_iff {c : TestCase} {settings : RunSettings} {i : Nat} {s : Step}
    (at_ : c.steps[i]? = some s) :
    .inStep (i + 1) p ∈ c.problems r settings ↔ s.Has r p := by
  have some_ : c.steps.isEmpty = false := by
    cases filled : c.steps with
    | nil => simp [filled] at at_
    | cons _ _ => rfl
  have tooMany (q : Problem) : q ∈ (if settings.maxSteps < c.steps.length then
      [.tooManySteps c.steps.length settings.maxSteps] else []) →
        q = .tooManySteps c.steps.length settings.maxSteps := by
    split <;> simp
  rw [problems, some_, if_neg (by decide), List.mem_append, inStep_mem_stepProblems_iff]
  constructor
  · rintro (many | ⟨j, t, there, number, has⟩)
    · cases tooMany _ many
    · obtain rfl : i = j := by omega
      obtain rfl : s = t := by simpa [at_] using there
      exact has
  · exact fun has => .inr ⟨i, s, at_, by omega, has⟩

end TestCase

end Walkthrough
