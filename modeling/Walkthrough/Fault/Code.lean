/-!
Numbered kinds of faults. The first digit of a number is its category.
-/
namespace Walkthrough

inductive FaultCategory where
  | document
  | action
  | assertion
  | configuration
  | internal
deriving DecidableEq, Repr

def FaultCategory.name : FaultCategory → String
  | .document => "Documento"
  | .action => "Ação"
  | .assertion => "Assertion"
  | .configuration => "Configuração"
  | .internal => "Interno"

inductive FaultCode where
  | emptyTestCase
  | unsupportedAction
  | unsupportedSelectorType
  | unsupportedValidationType
  | missingAttributeKey
  | missingCssPropertyKey
  | missingCustomName
  | tooManySteps
  | misplacedField
  | actionFailed
  | actionTimeout
  | uploadTargetMissing
  | noUploadSource
  | customActionNotFound
  | targetRequired
  | assertionFailed
  | missingSelector
  | customValidationNotFound
  | variableNotFound
  | scenarioFileNotFound
  | internalFault
  | bridgeFault
deriving DecidableEq, Repr

namespace FaultCode

def number : FaultCode → Nat
  | .emptyTestCase => 1001
  | .unsupportedAction => 1002
  | .unsupportedSelectorType => 1003
  | .unsupportedValidationType => 1004
  | .missingAttributeKey => 1005
  | .missingCssPropertyKey => 1006
  | .missingCustomName => 1007
  | .tooManySteps => 1008
  | .misplacedField => 1009
  | .actionFailed => 2001
  | .actionTimeout => 2002
  | .uploadTargetMissing => 2003
  | .noUploadSource => 2004
  | .customActionNotFound => 2005
  | .targetRequired => 2006
  | .assertionFailed => 3001
  | .missingSelector => 3002
  | .customValidationNotFound => 3003
  | .variableNotFound => 4001
  | .scenarioFileNotFound => 4002
  | .internalFault => 5001
  | .bridgeFault => 5002

def text (c : FaultCode) : String := s!"E{c.number}"

def category (c : FaultCode) : FaultCategory :=
  match c.number / 1000 with
  | 1 => .document
  | 2 => .action
  | 3 => .assertion
  | 4 => .configuration
  | _ => .internal

def description : FaultCode → String
  | .emptyTestCase => "Test case vazio"
  | .unsupportedAction => "Action não suportada"
  | .unsupportedSelectorType => "Tipo de selector não suportado"
  | .unsupportedValidationType => "Tipo de validação não suportado"
  | .missingAttributeKey => "Chave 'attribute' ausente"
  | .missingCssPropertyKey => "Chave 'cssProperty' ausente"
  | .missingCustomName => "customName ausente"
  | .tooManySteps => "Limite de steps excedido"
  | .misplacedField => "Campo fora de contexto"
  | .actionFailed => "Falha na ação"
  | .actionTimeout => "Timeout da ação"
  | .uploadTargetMissing => "Upload sem alvo"
  | .noUploadSource => "Upload sem origem de arquivos"
  | .customActionNotFound => "Ação custom não encontrada"
  | .targetRequired => "Ação exige selector"
  | .assertionFailed => "Assertion falhou"
  | .missingSelector => "Validação sem selector"
  | .customValidationNotFound => "Validação custom não encontrada"
  | .variableNotFound => "Variável de ambiente não definida"
  | .scenarioFileNotFound => "Arquivo de cenário não encontrado"
  | .internalFault => "Erro interno"
  | .bridgeFault => "Erro no bridge do navegador"

def label (c : FaultCode) (message : String) : String := s!"[{c.text}] {message}"

end FaultCode

end Walkthrough
