import Walkthrough.Check.Expect
import Walkthrough.Pattern.Match
import Walkthrough.Pattern.Parser

/-!
Assertions about a page: which call reads what is asserted, and when the reading is as expected.
What a validation lacks for that is found out before the page is asked anything.
-/
namespace Walkthrough

structure Assertion where
  call : Call
  judge : call.Value → Probe
  /-- What is expected, in words. -/
  expectation : String

namespace Assertion

def probe (a : Assertion) : Play (Except PageFault Probe) := do
  let reading ← Play.call a.call
  return reading.map a.judge

def sameWords (expected actual : String) : Probe :=
  .ofBool (Text.squeeze actual == Text.squeeze expected) actual

def sameText (expected actual : String) : Probe := .ofBool (actual == expected) actual

def visible (t : Target) : Assertion where
  call := .isVisible t
  judge shown := .ofBool shown "hidden or absent"
  expectation := s!"expected {t.display} to be visible"

def hidden (t : Target) : Assertion where
  call := .isVisible t
  judge shown := .ofBool (!shown) "visible"
  expectation := s!"expected {t.display} to be hidden"

def title (expected : String) : Assertion where
  call := .title
  judge := sameWords expected
  expectation := "expected page title to be \"" ++ expected ++ "\""

def url (pattern : String) (r : Pattern.Regex) : Assertion where
  call := .url
  judge actual := .ofBool (r.matchesIn actual) actual
  expectation := s!"expected URL to match /{pattern}/"

def text (t : Target) (expected : String) : Assertion where
  call := .textContent t
  judge actual := sameWords expected (actual.getD "")
  expectation := s!"expected {t.display} to have text \"" ++ expected ++ "\""

def value (t : Target) (expected : String) : Assertion where
  call := .inputValue t
  judge := sameText expected
  expectation := s!"expected {t.display} to have value \"" ++ expected ++ "\""

def attributeValue (t : Target) (name expected : String) : Assertion where
  call := .getAttribute t name
  judge actual := .ofBool (actual == some expected) (actual.getD "<absent>")
  expectation := s!"expected {t.display} to have attribute {name}=\"" ++ expected ++ "\""

def style (t : Target) (property expected : String) : Assertion where
  call := .computedStyle t property
  judge := sameText expected
  expectation := s!"expected {t.display} to have CSS {property}: {expected}"

def classes (t : Target) (pattern : String) (r : Pattern.Regex) : Assertion where
  call := .getAttribute t "class"
  judge actual := .ofBool (r.matchesIn (actual.getD "")) (actual.getD "")
  expectation := s!"expected {t.display} to have class /{pattern}/"

def check (a : Assertion) (e : Expect) : Play (Except String Unit) := e.poll a.probe

end Assertion

namespace Validation

def requireTarget (v : Validation) : Option Target → Except StepFault Target
  | some t => .ok t
  | none => .error (.missingSelector v.kind.name)

def requireText (fault : StepFault) (text : Option String) : Except StepFault String :=
  match text.filter (· != "") with
  | some text => .ok text
  | none => .error fault

def pattern (v : Validation) : Except StepFault Pattern.Regex :=
  match Pattern.parse v.dataText with
  | .ok r => .ok r
  | .error fault => .error (.assertion v.kind.name (.badPattern v.dataText fault))

/-- The assertion that a validation makes; custom ones and those of unknown kind make none. What
the document lacks is found before the target is missed, and a bad pattern last. -/
def assertion? (v : Validation) (target : Option Target) :
    Except StepFault (Option Assertion) := do
  match v.kind with
  | .toBeVisible => return some (.visible (← v.requireTarget target))
  | .toBeHidden => return some (.hidden (← v.requireTarget target))
  | .toHaveTitle => return some (.title v.dataText)
  | .toHaveUrl => return some (.url v.dataText (← v.pattern))
  | .toHaveText => return some (.text (← v.requireTarget target) v.dataText)
  | .toHaveValue => return some (.value (← v.requireTarget target) v.dataText)
  | .toHaveAttribute =>
    let name ← requireText .missingAttributeKey v.attributeName
    let t ← v.requireTarget target
    return some (.attributeValue t name v.dataText)
  | .toHaveCss =>
    let property ← requireText .missingCssPropertyKey v.cssProperty
    let t ← v.requireTarget target
    return some (.style t property v.dataText)
  | .toHaveClass =>
    let t ← v.requireTarget target
    return some (.classes t v.dataText (← v.pattern))
  | .custom => return none
  | .unknown _ => return none

end Validation

end Walkthrough
