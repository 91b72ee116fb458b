import Walkthrough.Preflight

/-!
What the checks made before a run establish of a test case in which they find no problem.
-/
namespace Walkthrough

/-- No problem is found in the validation, on a step that selects elements or not. -/
structure Validation.Accepted (v : Validation) (r : Registry) (stepSelects : Bool) : Prop where
  strategy : v.selection.unknownStrategy? = none
  kind : v.kindProblems r = []
  selector : v.selectorProblems stepSelects = []

structure Step.Accepted (s : Step) (r : Registry) : Prop where
  action : s.actionProblems r = []
  strategy : s.selection.unknownStrategy? = none
  validations : ∀ v ∈ s.validations, v.Accepted r s.selects

theorem Validation.problems_eq_nil_iff (v : Validation) (r : Registry) (step validation : Nat)
    (stepSelects : Bool) :
    v.problems r step validation stepSelects = [] ↔ v.Accepted r stepSelects := by
  simp only [problems, List.append_eq_nil_iff, List.map_eq_nil_iff, Option.toList_eq_nil_iff]
  exact ⟨fun ⟨a, b, c⟩ => ⟨a, b, c⟩, fun ⟨a, b, c⟩ => ⟨a, b, c⟩⟩

namespace Step

theorem validationProblems_eq_nil_iff (s : Step) (r : Registry) (step validation : Nat)
    (vs : List Validation) :
    s.validationProblems r step validation vs = [] ↔ ∀ v ∈ vs, v.Accepted r s.selects := by
  induction vs generalizing validation with
  | nil => simp [validationProblems]
  | cons v rest ih =>
    simp only [validationProblems, List.append_eq_nil_iff, Validation.problems_eq_nil_iff,
      ih (validation + 1), List.forall_mem_cons]

theorem accepted_of_problems {s : Step} {r : Registry} {step : Nat}
    (none : s.problems r step = []) : s.Accepted r := by
  simp only [problems, ownProblems, List.append_eq_nil_iff, List.map_eq_nil_iff,
    Option.toList_eq_nil_iff, validationProblems_eq_nil_iff] at none
  obtain ⟨⟨⟨action, -⟩, strategy⟩, validations⟩ := none
  exact ⟨action, strategy, validations⟩

end Step

namespace TestCase

theorem stepProblems_accepted {r : Registry} {number : Nat} {steps : List Step}
    (none : stepProblems r number steps = []) : ∀ s ∈ steps, s.Accepted r := by
  induction steps generalizing number with
  | nil => simp
  | cons s rest ih =>
    simp only [stepProblems, List.append_eq_nil_iff] at none
    simp only [List.forall_mem_cons]
    exact ⟨Step.accepted_of_problems none.1, ih none.2⟩

theorem accepted_of_problems {c : TestCase} {r : Registry} {settings : RunSettings}
    (none : c.problems r settings = []) : c.steps ≠ [] ∧ ∀ s ∈ c.steps, s.Accepted r := by
  unfold problems at none
  split at none
  · cases none
  · rename_i some_
    exact ⟨by simpa using some_, stepProblems_accepted (List.append_eq_nil_iff.mp none).2⟩

end TestCase

theorem Selection.target?_ok_of_strategy {s : Selection} (known : s.unknownStrategy? = none) :
    ∃ target, s.target? = .ok target := by
  unfold target?
  split
  · exact ⟨none, rfl⟩
  · rename_i selector _
    cases strategy : s.strategy with
    | none => exact ⟨_, by simp [strategyUsed, strategy, Strategy.locator?]; rfl⟩
    | some used =>
      cases used with
      | unknown name => simp [unknownStrategy?, strategy] at known
      | _ => exact ⟨_, by simp [strategyUsed, strategy, Strategy.locator?]; rfl⟩

namespace Upload

theorem ofFile_isSource {directory : String} {base : PathBase} {file : UploadFile}
    (source : isSource file = true) {payload : Option Payload}
    (made : ofFile directory base file = .ok payload) : payload.isSome := by
  unfold ofFile at made
  cases content : file.contentBase64 with
  | some encoded =>
    simp only [content] at made
    cases decoded : Base64.decode (Text.trim encoded).toUTF8.toList with
    | error fault => simp only [decoded, bind, Except.bind, reduceCtorEq] at made
    | ok bytes =>
      simp only [decoded, bind, Except.bind, pure, Except.pure, Except.ok.injEq] at made
      simp [← made]
  | none =>
    cases path : file.path with
    | none => simp [isSource, content, path] at source
    | some text =>
      have nonempty : text ≠ "" := by simpa [isSource, content, path] using source
      simp only [content, path, nonempty, if_false, Except.ok.injEq] at made
      simp [← made]

theorem ofFiles_isSource {directory : String} {base : PathBase} {files : List UploadFile}
    (source : files.any isSource = true) {payloads : List Payload}
    (made : ofFiles directory base files = .ok payloads) : payloads ≠ [] := by
  induction files generalizing payloads with
  | nil => simp at source
  | cons file rest ih =>
    simp only [ofFiles, bind, Except.bind, pure, Except.pure] at made
    cases first : ofFile directory base file with
    | error fault => simp [first] at made
    | ok payload =>
      cases others : ofFiles directory base rest with
      | error fault => simp [first, others] at made
      | ok later =>
        simp only [first, others, Except.ok.injEq] at made
        simp only [List.any_cons, Bool.or_eq_true] at source
        rw [← made]
        rcases source with here | there
        · obtain ⟨p, rfl⟩ := Option.isSome_iff_exists.mp (ofFile_isSource here first)
          simp
        · simp [ih there others]

theorem namesPath_iff (data : Option Json) :
    namesPath data = true ↔ ∃ path, path ∈ dataPaths data := by
  unfold namesPath dataPaths
  split
  · next path => simp [List.mem_filter]
  · next items =>
    simp only [List.any_eq_true, Option.any_eq_true, List.mem_filter, List.mem_filterMap]
    exact ⟨fun ⟨item, member, path, text, nonempty⟩ => ⟨path, ⟨item, member, text⟩, nonempty⟩,
      fun ⟨path, ⟨item, member, text⟩, nonempty⟩ => ⟨item, member, path, text, nonempty⟩⟩
  · simp

theorem collect_error_of_hasSource {directory : String} {s : Step} (source : hasSource s = true)
    {f : StepFault} (fails : collect directory s = .error f) :
    ∃ fault, f = .action s.action.name (.content fault) := by
  unfold collect at fails
  split at fails
  · rename_i fault _
    exact ⟨fault, (Except.error.inj fails).symm⟩
  · rename_i made
    dsimp only at fails
    split at fails
    · rename_i none
      have paths : dataPaths s.data = [] := by simpa using none
      rw [hasSource, Bool.or_eq_true, namesPath_iff, paths] at source
      rcases source with entries | ⟨path, named⟩
      · exact absurd rfl (ofFiles_isSource entries made)
      · cases named
    · cases fails
  · cases fails

end Upload

end Walkthrough
