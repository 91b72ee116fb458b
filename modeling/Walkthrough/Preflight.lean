import Walkthrough.Handler.Registry
import Walkthrough.Pattern.Parser

/-!
Problems of a test case that can be found without a page. All of them are collected, step by step;
steps and validations are counted from one.
-/
namespace Walkthrough

inductive StepProblem where
  | unknownAction (name : String)
  | unknownSelectorType (name : String)
  | missingCustomName
  | unknownCustomAction (name : String)
  | missingUploadSource
  | uploadWithoutSelector
  | misplacedFiles (name : String)
deriving DecidableEq, Repr

inductive ValidationProblem where
  | unknownType (name : String)
  | missingAttributeKey
  | missingCssPropertyKey
  | missingCustomName
  | unknownCustomValidation (name : String)
  | badPattern (pattern : String)
  | missingSelector (name : String)
deriving DecidableEq, Repr

inductive Problem where
  | emptyTestCase
  | tooManySteps (count limit : Nat)
  | inStep (step : Nat) (problem : StepProblem)
  | inValidation (step validation : Nat) (problem : ValidationProblem)
deriving DecidableEq, Repr

namespace StepProblem

def code : StepProblem → FaultCode
  | .unknownAction _ => .unsupportedAction
  | .unknownSelectorType _ => .unsupportedSelectorType
  | .missingCustomName => .missingCustomName
  | .unknownCustomAction _ => .customActionNotFound
  | .missingUploadSource => .noUploadSource
  | .uploadWithoutSelector => .uploadTargetMissing
  | .misplacedFiles _ => .misplacedField

def message : StepProblem → String
  | .unknownAction name =>
    s!"action '{name}' não é conhecida. Ações válidas: "
      ++ Text.join ", " (Action.known.map (·.1))
  | .unknownSelectorType name =>
    s!"selectorType '{name}' não suportado. Tipos válidos: "
      ++ Text.join ", " (Strategy.known.map (·.1))
  | .missingCustomName => "action custom sem 'customName'"
  | .unknownCustomAction name => s!"action custom '{name}' não está registrada"
  | .missingUploadSource => "upload sem 'files' nem caminhos em 'data'"
  | .uploadWithoutSelector => "upload exige 'selector' apontando para o input de arquivo"
  | .misplacedFiles name => s!"'files' só é usado pela action upload (action atual: {name})"

end StepProblem

namespace ValidationProblem

def code : ValidationProblem → FaultCode
  | .unknownType _ => .unsupportedValidationType
  | .missingAttributeKey => .missingAttributeKey
  | .missingCssPropertyKey => .missingCssPropertyKey
  | .missingCustomName => .missingCustomName
  | .unknownCustomValidation _ => .customValidationNotFound
  | .badPattern _ => .assertionFailed
  | .missingSelector _ => .missingSelector

def message : ValidationProblem → String
  | .unknownType name => s!"tipo '{name}' não é conhecido"
  | .missingAttributeKey => "toHaveAttribute exige 'attribute'"
  | .missingCssPropertyKey => "toHaveCSS exige 'cssProperty'"
  | .missingCustomName => "validação custom sem 'customName'"
  | .unknownCustomValidation name => s!"validação custom '{name}' não está registrada"
  | .badPattern pattern => s!"regex inválida '{pattern}'"
  | .missingSelector name => s!"{name} exige 'selector' (na validação ou no step)"

end ValidationProblem

namespace Problem

def code : Problem → FaultCode
  | .emptyTestCase => .emptyTestCase
  | .tooManySteps _ _ => .tooManySteps
  | .inStep _ p => p.code
  | .inValidation _ _ p => p.code

def message : Problem → String
  | .emptyTestCase => "Test case vazio: nenhum step definido"
  | .tooManySteps count limit => s!"Test case com {count} steps excede o limite de {limit}"
  | .inStep step p => s!"Step {step}: {p.message}"
  | .inValidation step validation p => s!"Step {step}, validação {validation}: {p.message}"

end Problem

def Selection.unknownStrategy? (s : Selection) : Option String :=
  match s.strategy with
  | some (.unknown name) => some name
  | _ => none

def nonEmpty? (text : Option String) : Option String := text.filter (· != "")

namespace Validation

def kindProblems (v : Validation) (r : Registry) : List ValidationProblem :=
  match v.kind with
  | .unknown name => [.unknownType name]
  | .toHaveAttribute =>
    if (nonEmpty? v.attributeName).isNone then [.missingAttributeKey] else []
  | .toHaveCss => if (nonEmpty? v.cssProperty).isNone then [.missingCssPropertyKey] else []
  | .custom =>
    match nonEmpty? v.customName with
    | none => [.missingCustomName]
    | some name => if (r.validation? name).isNone then [.unknownCustomValidation name] else []
  | .toHaveUrl | .toHaveClass =>
    match Pattern.parse v.dataText with
    | .ok _ => []
    | .error _ => [.badPattern v.dataText]
  | _ => []

/-- A validation of an element has to select one, unless its step does. -/
def selectorProblems (v : Validation) (stepSelects : Bool) : List ValidationProblem :=
  if v.kind.needsTarget && !stepSelects && v.selection.selector?.isNone then
    [.missingSelector v.kind.name]
  else []

/-- The problems of a validation. A selector of unknown kind is laid to the step. -/
def problems (v : Validation) (r : Registry) (step validation : Nat) (stepSelects : Bool) :
    List Problem :=
  v.selection.unknownStrategy?.toList.map (fun name => .inStep step (.unknownSelectorType name))
    ++ (v.kindProblems r ++ v.selectorProblems stepSelects).map (.inValidation step validation)

end Validation

namespace Step

def selects (s : Step) : Bool := s.selection.selector?.isSome

def actionProblems (s : Step) (r : Registry) : List StepProblem :=
  match s.action with
  | .unknown name => [.unknownAction name]
  | .custom =>
    match nonEmpty? s.customName with
    | none => [.missingCustomName]
    | some name => if (r.action? name).isNone then [.unknownCustomAction name] else []
  | .upload =>
    (if Upload.hasSource s then [] else [.missingUploadSource])
      ++ (if s.selects then [] else [.uploadWithoutSelector])
  | _ => []

def ownProblems (s : Step) (r : Registry) : List StepProblem :=
  s.actionProblems r
    ++ (if !s.files.isEmpty && s.action != .upload then [.misplacedFiles s.action.name] else [])
    ++ s.selection.unknownStrategy?.toList.map .unknownSelectorType

def validationProblems (s : Step) (r : Registry) (step validation : Nat) :
    List Validation → List Problem
  | [] => []
  | v :: rest =>
    v.problems r step validation s.selects ++ s.validationProblems r step (validation + 1) rest

def problems (s : Step) (r : Registry) (step : Nat) : List Problem :=
  (s.ownProblems r).map (.inStep step) ++ s.validationProblems r step 1 s.validations

end Step

namespace TestCase

def stepProblems (r : Registry) (number : Nat) : List Step → List Problem
  | [] => []
  | s :: rest => s.problems r number ++ stepProblems r (number + 1) rest

def problems (c : TestCase) (r : Registry) (settings : RunSettings) : List Problem :=
  if c.steps.isEmpty then [.emptyTestCase]
  else
    (if settings.maxSteps < c.steps.length then
      [.tooManySteps c.steps.length settings.maxSteps] else [])
      ++ stepProblems r 1 c.steps

end TestCase

end Walkthrough
