import Walkthrough.Document.Names
import Walkthrough.Json.Plain

/-!
Test cases: steps that act on a page, and the validations that follow each of them.
-/
namespace Walkthrough

inductive PathBase where
  | workingDirectory
  | none
deriving DecidableEq, Repr

structure UploadFile where
  path : Option String := none
  contentBase64 : Option String := none
  name : Option String := none
  mimeType : Option String := none
deriving DecidableEq, Repr

structure Validation where
  kind : ValidationKind
  selector : Option String := none
  strategy : Option Strategy := none
  nth : Option Int := none
  data : Option Json := none
  message : Option String := none
  soft : Bool := false
  attributeName : Option String := none
  cssProperty : Option String := none
  customName : Option String := none
  options : Option Json := none
deriving BEq, Repr

structure Step where
  stepName : Option String := none
  action : Action
  selector : Option String := none
  strategy : Option Strategy := none
  path : Option String := none
  data : Option Json := none
  nth : Option Int := none
  waitTime : Option Nat := none
  iterate : Bool := false
  customName : Option String := none
  options : Option Json := none
  files : List UploadFile := []
  resolveFrom : PathBase := .workingDirectory
  clearFirst : Bool := false
  validations : List Validation := []
deriving BEq, Repr

structure TestCase where
  description : String
  enabled : Bool := false
  testOrder : Option Binary64 := none
  product : Option String := none
  steps : List Step
deriving BEq, Repr

/-- A negative index narrows nothing. -/
def indexOf? : Option Int → Option Nat
  | some n => if 0 ≤ n then some n.toNat else none
  | none => none

namespace Validation

def dataText (v : Validation) : String := Json.plainOf v.data

def index? (v : Validation) : Option Nat := indexOf? v.nth

end Validation

namespace Step

def dataText (s : Step) : String := Json.plainOf s.data

def index? (s : Step) : Option Nat := indexOf? s.nth

def title (s : Step) (position : Nat) : String :=
  let numbered := s!"Step {position + 1}: {s.action.name}"
  match s.stepName with
  | some name => if Text.isAllBlank name then numbered else name
  | none => numbered

end Step

end Walkthrough
