import Walkthrough.Proofs.Run.Failures

/-!
What is wrong with a validation as it is written down. Such a validation fails at once, before the
page is asked anything, and no flag of the validation makes its fault a soft one.
-/
namespace Walkthrough

/-- The document is at fault, with the code of its fault, where a validation inherits a target or
does not. -/
inductive Validation.Misconfigured (r : Runner) (inherits : Bool) (v : Validation) :
    FaultCode → Prop where
  | selectorType {name : String} (selects : v.selection.selector?.isSome)
      (strategy : v.strategy = some (.unknown name)) :
      Misconfigured r inherits v .unsupportedSelectorType
  | type {name : String} (kind : v.kind = .unknown name)
      (strict : r.settings.strictValidationTypes = true) :
      Misconfigured r inherits v .unsupportedValidationType
  | attributeKey (kind : v.kind = .toHaveAttribute) (missing : v.attributeName.getD "" = "") :
      Misconfigured r inherits v .missingAttributeKey
  | cssPropertyKey (kind : v.kind = .toHaveCss) (missing : v.cssProperty.getD "" = "") :
      Misconfigured r inherits v .missingCssPropertyKey
  | selector (kind : v.kind.needsTarget = true) (selects : v.selection.selector? = none)
      (inherited : inherits = false) : Misconfigured r inherits v .missingSelector
  | customName (kind : v.kind = .custom)
      (unregistered : r.registry.validation? (v.customName.getD "") = none) :
      Misconfigured r inherits v .customValidationNotFound

theorem Selection.target?_error_iff (s : Selection) (f : StepFault) :
    s.target? = .error f ↔
      s.selector?.isSome ∧ ∃ name, s.strategy = some (.unknown name) ∧
        f = .unsupportedSelectorType name := by
  unfold target?
  cases selector : s.selector? with
  | none => simp
  | some text =>
    cases strategy : s.strategy with
    | none => simp [strategyUsed, strategy, Strategy.locator?]
    | some used => cases used <;> simp [strategyUsed, strategy, Strategy.locator?, Strategy.name,
        eq_comm]

namespace Validation

variable {r : Runner} {v : Validation} {f : StepFault}

theorem requireText_missing {text : Option String} (missing : text.getD "" = "") :
    requireText f text = .error f := by
  unfold requireText
  cases text with
  | none => rfl
  | some text =>
    obtain rfl : text = "" := missing
    rfl

theorem requireText_given {text : Option String} (given : text.getD "" ≠ "") :
    ∃ t, requireText f text = .ok t := by
  unfold requireText
  cases text with
  | none => exact absurd rfl given
  | some text => exact ⟨text, by simp [Option.filter, show text ≠ "" from given]⟩

theorem assertion?_without_target (kind : v.kind.needsTarget = true) :
    v.assertion? none = .error (.missingSelector v.kind.name) ∨
      (v.kind = .toHaveAttribute ∧ v.attributeName.getD "" = "" ∧
        v.assertion? none = .error .missingAttributeKey) ∨
      (v.kind = .toHaveCss ∧ v.cssProperty.getD "" = "" ∧
        v.assertion? none = .error .missingCssPropertyKey) := by
  cases shape : v.kind with
  | toHaveAttribute =>
    by_cases missing : v.attributeName.getD "" = ""
    · refine .inr (.inl ⟨rfl, missing, ?_⟩)
      simp only [assertion?, shape, requireText_missing missing]
      rfl
    · obtain ⟨name, given⟩ := requireText_given (f := .missingAttributeKey) missing
      left
      simp only [assertion?, shape, given, requireTarget]
      rfl
  | toHaveCss =>
    by_cases missing : v.cssProperty.getD "" = ""
    · refine .inr (.inr ⟨rfl, missing, ?_⟩)
      simp only [assertion?, shape, requireText_missing missing]
      rfl
    · obtain ⟨name, given⟩ := requireText_given (f := .missingCssPropertyKey) missing
      left
      simp only [assertion?, shape, given, requireTarget]
      rfl
  | toHaveTitle | toHaveUrl | custom | unknown => simp [shape, ValidationKind.needsTarget] at kind
  | toBeVisible | toBeHidden | toHaveText | toHaveValue | toHaveClass =>
    left
    simp only [assertion?, shape, requireTarget]
    rfl

theorem check_of_assertion?_error {scope : Scope} (lacks : v.assertion? scope.target = .error f) :
    v.check r scope = throw f := by
  unfold check
  split
  · rename_i kind
    simp [assertion?, kind, pure, Except.pure] at lacks
  · rename_i kind
    simp [assertion?, kind, pure, Except.pure] at lacks
  · simp only [lacks]

theorem evaluate_of_check_throw {inherited own : Option Target}
    (found : v.selection.target? = .ok own) (hard : f.isAssertion = false)
    (throws : ∀ expect, v.check r ⟨own.or inherited, expect⟩ = throw f) :
    v.evaluate r inherited = throw f := by
  simp only [evaluate, found, throws]
  change (if v.soft && f.isAssertion then _ else _) = _
  rw [hard, Bool.and_false]
  rfl

def withSoft (v : Validation) (soft : Bool) : Validation := { v with soft := soft }

theorem Misconfigured.check_throws {inherited own : Option Target} {code : FaultCode}
    (h : v.Misconfigured r inherited.isSome code) (found : v.selection.target? = .ok own) :
    ∃ f, f.isAssertion = false ∧ v.Misconfigured r inherited.isSome f.code ∧
      ∀ soft expect, (v.withSoft soft).check r ⟨own.or inherited, expect⟩ = throw f := by
  cases h with
  | @selectorType name selects strategy =>
    have fails := (Selection.target?_error_iff v.selection _).mpr ⟨selects, name, strategy, rfl⟩
    rw [found] at fails
    cases fails
  | @type name kind strict =>
    refine ⟨.unsupportedValidationType name, rfl, .type kind strict, fun soft expect => ?_⟩
    simp only [check, withSoft, kind, strict, if_true]
  | attributeKey kind missing =>
    refine ⟨.missingAttributeKey, rfl, .attributeKey kind missing, fun soft expect => ?_⟩
    refine check_of_assertion?_error ?_
    simp only [assertion?, withSoft, kind, requireText_missing missing]
    rfl
  | cssPropertyKey kind missing =>
    refine ⟨.missingCssPropertyKey, rfl, .cssPropertyKey kind missing, fun soft expect => ?_⟩
    refine check_of_assertion?_error ?_
    simp only [assertion?, withSoft, kind, requireText_missing missing]
    rfl
  | selector kind selects inherits =>
    have own_none : own = none := by
      have same := Selection.target?_isSome found
      simpa [selects] using same
    have inherited_none : inherited = none := by simpa using inherits
    subst own_none inherited_none
    rcases assertion?_without_target kind with lacks | ⟨shape, missing, lacks⟩ |
      ⟨shape, missing, lacks⟩
    · exact ⟨_, rfl, .selector kind selects inherits, fun soft expect =>
        check_of_assertion?_error (v := v.withSoft soft) lacks⟩
    · exact ⟨_, rfl, .attributeKey shape missing, fun soft expect =>
        check_of_assertion?_error (v := v.withSoft soft) lacks⟩
    · exact ⟨_, rfl, .cssPropertyKey shape missing, fun soft expect =>
        check_of_assertion?_error (v := v.withSoft soft) lacks⟩
  | customName kind unregistered =>
    refine ⟨.customValidationNotFound (v.customName.getD ""), rfl,
      .customName kind unregistered, fun soft expect => ?_⟩
    simp only [check, withSoft, kind, callHandler, unregistered]

theorem Misconfigured.evaluate_throws {inherited : Option Target} {code : FaultCode}
    (h : v.Misconfigured r inherited.isSome code) :
    ∃ f, (∀ soft, (v.withSoft soft).evaluate r inherited = throw f) ∧ f.isAssertion = false ∧
      v.Misconfigured r inherited.isSome f.code := by
  cases found : v.selection.target? with
  | error f =>
    obtain ⟨selects, name, strategy, rfl⟩ := (Selection.target?_error_iff _ _).mp found
    refine ⟨.unsupportedSelectorType name, ?_, rfl, .selectorType selects strategy⟩
    intro soft
    have unsupported : (v.withSoft soft).selection.target? =
      .error (.unsupportedSelectorType name) := found
    simp only [evaluate, unsupported]
  | ok own =>
    obtain ⟨f, hard, bad, throws⟩ := h.check_throws found
    exact ⟨f, fun soft => evaluate_of_check_throw found hard (throws soft), hard, bad⟩

end Validation

end Walkthrough
