import Walkthrough.Document.Case
import Walkthrough.Json.Record

/-!
The written form of test cases.
-/
namespace Walkthrough

open Json (RecordField Schema Reader)

namespace Action

def reader : Reader Action := fun levels o => (Reader.string levels o).map ofName

end Action

namespace Strategy

def reader : Reader Strategy := fun levels o => (Reader.string levels o).map ofName

end Strategy

namespace ValidationKind

def reader : Reader ValidationKind := fun levels o => (Reader.string levels o).map ofName

end ValidationKind

namespace PathBase

def names : List (String × PathBase) := [("cwd", .workingDirectory), ("none", .none)]

def write : PathBase → Json
  | .workingDirectory => .string "cwd"
  | .none => .string "none"

end PathBase

def optionalText {α : Type} (name : String) (get : α → Option String)
    (set : Option String → α → α) : RecordField α :=
  .optional name Reader.string Json.string get set

def optionalStrategy {α : Type} (get : α → Option Strategy)
    (set : Option Strategy → α → α) : RecordField α :=
  .optional "selectorType" Strategy.reader (fun s => .string s.name) get set

def optionalJson {α : Type} (name : String) (get : α → Option Json)
    (set : Option Json → α → α) : RecordField α :=
  .optional name Reader.value id get set

def optionalIndex {α : Type} (get : α → Option Int) (set : Option Int → α → α) : RecordField α :=
  .optional "nth" Reader.signed Json.ofInt get set

def flag {α : Type} (name : String) (get : α → Bool) (set : Bool → α → α) : RecordField α :=
  .withDefault name Reader.bool Json.bool get set

namespace UploadFile

def schema : Schema UploadFile where
  label := "UploadFile"
  blank := {}
  fields := [
    optionalText "path" (·.path) fun v f => { f with path := v },
    optionalText "contentBase64" (·.contentBase64) fun v f => { f with contentBase64 := v },
    optionalText "name" (·.name) fun v f => { f with name := v },
    optionalText "mimeType" (·.mimeType) fun v f => { f with mimeType := v }]

end UploadFile

namespace Validation

def schema : Schema Validation where
  label := "ValidationStep"
  blank := { kind := .unknown "" }
  fields := [
    .required "type" ValidationKind.reader (fun k => .string k.name) (·.kind)
      fun v s => { s with kind := v },
    optionalText "selector" (·.selector) fun v s => { s with selector := v },
    optionalStrategy (·.strategy) fun v s => { s with strategy := v },
    optionalIndex (·.nth) fun v s => { s with nth := v },
    optionalJson "data" (·.data) fun v s => { s with data := v },
    optionalText "message" (·.message) fun v s => { s with message := v },
    flag "soft" (·.soft) fun v s => { s with soft := v },
    optionalText "attribute" (·.attributeName) fun v s => { s with attributeName := v },
    optionalText "cssProperty" (·.cssProperty) fun v s => { s with cssProperty := v },
    optionalText "customName" (·.customName) fun v s => { s with customName := v },
    optionalJson "expectOptions" (·.options) fun v s => { s with options := v }]

end Validation

namespace Step

def schema : Schema Step where
  label := "TestStep"
  blank := { action := .unknown "" }
  fields := [
    optionalText "stepName" (·.stepName) fun v s => { s with stepName := v },
    .required "action" Action.reader (fun a => .string a.name) (·.action)
      fun v s => { s with action := v },
    optionalText "selector" (·.selector) fun v s => { s with selector := v },
    optionalStrategy (·.strategy) fun v s => { s with strategy := v },
    optionalText "path" (·.path) fun v s => { s with path := v },
    optionalJson "data" (·.data) fun v s => { s with data := v },
    optionalIndex (·.nth) fun v s => { s with nth := v },
    .optional "waitTime" (Reader.nat "u64") Json.ofNat (·.waitTime)
      fun v s => { s with waitTime := v },
    flag "iterate" (·.iterate) fun v s => { s with iterate := v },
    optionalText "customName" (·.customName) fun v s => { s with customName := v },
    optionalJson "actionOptions" (·.options) fun v s => { s with options := v },
    .listOrNothing "files" UploadFile.schema.read UploadFile.schema.write (·.files)
      fun v s => { s with files := v },
    .withDefault "resolveFrom" (Reader.variant PathBase.names) PathBase.write (·.resolveFrom)
      fun v s => { s with resolveFrom := v },
    flag "clearFirst" (·.clearFirst) fun v s => { s with clearFirst := v },
    .withDefault "validations" (Reader.list Validation.schema.read)
      (fun vs => .array (vs.map Validation.schema.write)) (·.validations)
      fun v s => { s with validations := v }]

end Step

namespace TestCase

def schema : Schema TestCase where
  label := "TestCase"
  blank := { description := "", steps := [] }
  fields := [
    .required "description" Reader.string Json.string (·.description)
      fun v c => { c with description := v },
    flag "enabled" (·.enabled) fun v c => { c with enabled := v },
    .optional "testOrder" Reader.real Json.ofBinary64 (·.testOrder)
      fun v c => { c with testOrder := v },
    optionalText "product" (·.product) fun v c => { c with product := v },
    .required "testSteps" (Reader.list Step.schema.read)
      (fun ss => .array (ss.map Step.schema.write)) (·.steps)
      fun v c => { c with steps := v }]

def parse (text : String) : Except Json.ReadFault TestCase := Reader.run schema.read text

def toJson (c : TestCase) : Json := schema.write c

end TestCase

end Walkthrough
