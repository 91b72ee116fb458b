import Walkthrough.Fault.Code
import Walkthrough.Fault.Trouble
import Walkthrough.Pattern.Fault
import Walkthrough.Target
import Walkthrough.Text.Base64

/-!
Faults that end a step, each with its code. Only failed assertions can be soft.
-/
namespace Walkthrough

inductive ActionCause where
  | page (fault : PageFault)
  | content (fault : Base64.Fault)
  | handler (trouble : Trouble)
  | told (text : String)
deriving DecidableEq, Repr

def ActionCause.message : ActionCause → String
  | .page fault => fault.message
  | .content fault => "invalid contentBase64: " ++ fault.message
  | .handler trouble => trouble.message
  | .told text => text

inductive AssertionCause where
  /-- What was expected, what was seen last, and the author's own message. -/
  | unmet (expectation observed note : String)
  | badPattern (pattern : String) (fault : Pattern.Fault)
  | handler (trouble : Trouble)
  | told (text : String)
deriving DecidableEq, Repr

def AssertionCause.message : AssertionCause → String
  | .unmet expectation observed note =>
    let detail := expectation ++ ", received \"" ++ observed ++ "\""
    if note = "" then detail else s!"{note} ({detail})"
  | .badPattern pattern fault => s!"invalid regular expression /{pattern}/: {fault.message}"
  | .handler trouble => trouble.message
  | .told text => text

inductive StepFault where
  | emptyTestCase (description : String)
  | unsupportedSelectorType (name : String)
  | unsupportedAction (name : String)
  | unsupportedValidationType (name : String)
  | missingSelector (validation : String)
  | missingAttributeKey
  | missingCssPropertyKey
  | customActionNotFound (name : String)
  | customValidationNotFound (name : String)
  | uploadTargetMissing
  | noUploadSource
  | targetRequired (name : String)
  | action (name : String) (cause : ActionCause)
  | actionTimeout (name : String) (limit : Nat)
  | assertion (kind : String) (cause : AssertionCause)
deriving DecidableEq, Repr

namespace StepFault

def code : StepFault → FaultCode
  | .emptyTestCase _ => .emptyTestCase
  | .unsupportedSelectorType _ => .unsupportedSelectorType
  | .unsupportedAction _ => .unsupportedAction
  | .unsupportedValidationType _ => .unsupportedValidationType
  | .missingSelector _ => .missingSelector
  | .missingAttributeKey => .missingAttributeKey
  | .missingCssPropertyKey => .missingCssPropertyKey
  | .customActionNotFound _ => .customActionNotFound
  | .customValidationNotFound _ => .customValidationNotFound
  | .uploadTargetMissing => .uploadTargetMissing
  | .noUploadSource => .noUploadSource
  | .targetRequired _ => .targetRequired
  | .action _ _ => .actionFailed
  | .actionTimeout _ _ => .actionTimeout
  | .assertion _ _ => .assertionFailed

def message : StepFault → String
  | .emptyTestCase description => s!"Test case '{description}' has no steps"
  | .unsupportedSelectorType name => s!"Unsupported selector type: {name}"
  | .unsupportedAction name => s!"Unsupported action: {name}"
  | .unsupportedValidationType name => s!"Unsupported validation type: {name}"
  | .missingSelector validation =>
    s!"Validation '{validation}' requires a selector but no target was resolved"
  | .missingAttributeKey => "Validation type 'toHaveAttribute' requires an 'attribute' key."
  | .missingCssPropertyKey => "Validation type 'toHaveCSS' requires a 'cssProperty' key."
  | .customActionNotFound name => s!"Custom action '{name}' not found in registry"
  | .customValidationNotFound name => s!"Custom validation '{name}' not found in registry"
  | .uploadTargetMissing => "Upload requires a target file input"
  | .noUploadSource => "Upload has no source: provide 'files' or file paths in 'data'"
  | .targetRequired name => s!"Action '{name}' requires a selector"
  | .action name cause => s!"Action '{name}' failed: {cause.message}"
  | .actionTimeout name limit => s!"Action '{name}' timed out after {limit}ms"
  | .assertion kind cause => s!"{kind} failed: {cause.message}"

def report (f : StepFault) : String := f.code.label f.message

def isAssertion : StepFault → Bool
  | .assertion _ _ => true
  | _ => false

end StepFault

namespace Selection

def target? (s : Selection) : Except StepFault (Option Target) :=
  match s.selector? with
  | none => .ok none
  | some selector =>
    match s.strategyUsed.locator? selector with
    | some locator => .ok (some ((Target.mk locator none).narrowed (indexOf? s.nth)))
    | none => .error (.unsupportedSelectorType s.strategyUsed.name)

end Selection

end Walkthrough
