import Walkthrough.Report.Basic
import Walkthrough.Run.Action

/-!
Evaluating the validations of a step. A failed assertion can be soft; what is wrong with the
document never is.
-/
namespace Walkthrough

inductive Verdict where
  | passed
  | softFailed (failure : SoftFailure)
deriving DecidableEq, Repr

namespace Validation

def callHandler (v : Validation) (r : Registry) (scope : Scope) : Attempt StepFault Unit := do
  let name := v.customName.getD ""
  match r.validation? name with
  | none => throw (.customValidationNotFound name)
  | some handler =>
    match ← Attempt.result (handler v scope) with
    | .ok () => return ()
    | .error trouble => throw (.assertion s!"custom:{name}" (.handler trouble))

def check (v : Validation) (r : Runner) (scope : Scope) : Attempt StepFault Unit :=
  match v.kind with
  | .custom => v.callHandler r.registry scope
  | .unknown name =>
    if r.settings.strictValidationTypes then throw (.unsupportedValidationType name)
    else return ()
  | kind =>
    match v.assertion? scope.target with
    | .error fault => throw fault
    | .ok none => return ()
    | .ok (some a) => do
      match ← Attempt.ofPlay (a.check scope.expect) with
      | .ok () => return ()
      | .error observed =>
        throw (.assertion kind.name (.unmet a.expectation observed (v.message.getD "")))

def evaluate (v : Validation) (r : Runner) (inherited : Option Target) :
    Attempt StepFault Verdict :=
  match v.selection.target? with
  | .error fault => throw fault
  | .ok own => do
    let scope : Scope := ⟨own.or inherited, (Expect.ofSettings r.settings).withOptions v.options⟩
    match ← Attempt.result (v.check r scope) with
    | .ok () => return .passed
    | .error fault =>
      if v.soft && fault.isAssertion then return .softFailed ⟨v.kind.name, fault.report⟩
      else throw fault

end Validation

end Walkthrough
