import Walkthrough.Document.Case
import Walkthrough.Number.Decimal

/-!
Targets: which elements of a page a selector stands for. Resolving a selector never touches the
page, so that no element may match is found out only when the target is used.
-/
namespace Walkthrough

inductive Locator where
  | selector (text : String)
  | testId (id : String)
deriving DecidableEq, Repr

/-- The elements that a locator finds, or the one among them with the given index. -/
structure Target where
  locator : Locator
  nth : Option Nat := none
deriving DecidableEq, Repr

namespace Locator

def key : Locator → String
  | .selector text => text
  | .testId id => "testId=" ++ id

def toJson : Locator → Json
  | .selector text => .object [("kind", .string "selector"), ("value", .string text)]
  | .testId id => .object [("kind", .string "testId"), ("value", .string id)]

end Locator

def Strategy.locator? (selector : String) : Strategy → Option Locator
  | .css => some (.selector selector)
  | .xpath => some (.selector ("xpath=" ++ selector))
  | .id => some (.selector ("#" ++ selector))
  | .text => some (.selector ("text=" ++ selector))
  | .testId => some (.testId selector)
  | .unknown _ => none

namespace Target

def narrowed (t : Target) : Option Nat → Target
  | some index => { t with nth := some index }
  | none => t

/-- The element at a place among the target's own. A target with an index has only one. -/
def element (t : Target) (place : Nat) : Target :=
  match t.nth with
  | some _ => t
  | none => { t with nth := some place }

def display (t : Target) : String :=
  match t.nth with
  | some n => s!"{t.locator.key} >> nth={n}"
  | none => t.locator.key

def toJson (t : Target) : Json :=
  .object (("locator", t.locator.toJson) :: match t.nth with
    | some n => [("nth", Json.ofNat n)]
    | none => [])

end Target

structure Selection where
  selector : Option String
  strategy : Option Strategy
  nth : Option Int
deriving DecidableEq, Repr

def Step.selection (s : Step) : Selection := ⟨s.selector, s.strategy, s.nth⟩

def Validation.selection (v : Validation) : Selection := ⟨v.selector, v.strategy, v.nth⟩

namespace Selection

def selector? (s : Selection) : Option String := s.selector.filter (· != "")

def strategyUsed (s : Selection) : Strategy := s.strategy.getD .css

end Selection

end Walkthrough
