import Walkthrough.Check.Assertion
import Walkthrough.Handler.SelectWord

/-!
The handlers that every registry begins with.
-/
namespace Walkthrough

namespace QueryResponse

def element (selector : String) : Target := ⟨.selector selector, none⟩

def ifPresent (selector : Option String) (c : Target → Call) : Attempt Trouble Unit :=
  match selector with
  | none => return ()
  | some selector => do
    let t := element selector
    let found ← Handler.call (.count t)
    if 0 < found then
      let _ ← Handler.call (c t)

def handler : ActionHandler := fun step => do
  let data := step.data.getD .null
  match data.member? "selector" with
  | some (.object selectors) =>
    let text := Json.plainOf (data.member? "responseText")
    let named (name : String) := (selectors.lookup name).bind Json.string?
    ifPresent (named "fillResponse") fun t => .fill t text none
    ifPresent (named "clickDone") fun t => .click t none
  | _ => Handler.fail "queryResponse requires 'data.selector'"

end QueryResponse

namespace ContainsText

def occursIn (needle : List Char) : List Char → Bool
  | [] => needle.isEmpty
  | c :: rest => needle.isPrefixOf (c :: rest) || occursIn needle rest

def judge (needle actual : String) : Probe :=
  .ofBool (occursIn needle.toList actual.toList) actual

def probe (needle : String) : Option Target → Play (Except PageFault Probe)
  | some t => do
    let reading ← Play.call (.textContent t)
    return reading.map fun text => judge needle (text.getD "")
  | none => do
    let reading ← Play.call .content
    return reading.map (judge needle)

def handler : ValidationHandler := fun v scope => do
  let needle := v.dataText
  if needle = "" then
    Handler.fail "Custom validation 'containsText' requires 'data' with expected substring"
  match ← Attempt.ofPlay (scope.expect.poll (probe needle scope.target)) with
  | .ok () => return ()
  | .error _ => Handler.fail (v.message.getD s!"Expected text to include: {needle}")

end ContainsText

namespace Registry

def builtin : Registry :=
  ((empty.addAction "selectWord" SelectWord.handler).addAction "queryResponse"
    QueryResponse.handler).addValidation "containsText" ContainsText.handler

end Registry

end Walkthrough
