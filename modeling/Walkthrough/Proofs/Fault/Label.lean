import Walkthrough.Fault.Step

/-!
Labels tell codes apart: no text is labelled with two of them.
-/
namespace Walkthrough

namespace FaultCode

def mark (c : FaultCode) : String := s!"[{c.text}] "

theorem label_eq_mark_append (c : FaultCode) (message : String) :
    c.label message = c.mark ++ message := by
  simp [label, mark, String.append_assoc, toString]

theorem mark_length (c : FaultCode) : c.mark.toList.length = 8 := by
  cases c <;> decide +kernel

def codes : List FaultCode := [
  emptyTestCase, unsupportedAction, unsupportedSelectorType, unsupportedValidationType,
  missingAttributeKey, missingCssPropertyKey, missingCustomName, tooManySteps, misplacedField,
  actionFailed, actionTimeout, uploadTargetMissing, noUploadSource, customActionNotFound,
  targetRequired, assertionFailed, missingSelector, customValidationNotFound, variableNotFound,
  scenarioFileNotFound, internalFault, bridgeFault]

theorem find_mark (c : FaultCode) : codes.find? (·.mark == c.mark) = some c := by
  cases c <;> decide +kernel

theorem mark_injective {c d : FaultCode} (h : c.mark = d.mark) : c = d := by
  have found := find_mark c
  rw [h, find_mark d] at found
  exact (Option.some.inj found).symm

theorem label_injective {c d : FaultCode} {message other : String}
    (h : c.label message = d.label other) : c = d := by
  have texts : c.mark.toList ++ message.toList = d.mark.toList ++ other.toList := by
    simpa [label_eq_mark_append] using congrArg String.toList h
  have marks := List.append_inj_left texts (by rw [mark_length, mark_length])
  exact mark_injective (String.toList_inj.mp marks)

end FaultCode

namespace StepFault

theorem isAssertion_iff_code (f : StepFault) : f.isAssertion ↔ f.code = .assertionFailed := by
  cases f <;> simp [isAssertion, code]

end StepFault

end Walkthrough
