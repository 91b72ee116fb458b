import Walkthrough.Check.Expect

/-!
Handlers for custom actions and custom validations, by name. Actions and validations have names of
their own.
-/
namespace Walkthrough

abbrev ActionHandler := Step → Attempt Trouble Unit

structure Scope where
  target : Option Target
  expect : Expect
deriving DecidableEq, Repr

abbrev ValidationHandler := Validation → Scope → Attempt Trouble Unit

structure Registry where
  actions : List (String × ActionHandler) := []
  validations : List (String × ValidationHandler) := []

namespace Registry

def empty : Registry := {}

def put {α : Type} (name : String) (a : α) (entries : List (String × α)) : List (String × α) :=
  (name, a) :: entries.filter (·.1 != name)

def addAction (r : Registry) (name : String) (h : ActionHandler) : Registry :=
  { r with actions := put name h r.actions }

def addValidation (r : Registry) (name : String) (h : ValidationHandler) : Registry :=
  { r with validations := put name h r.validations }

def action? (r : Registry) (name : String) : Option ActionHandler := r.actions.lookup name

def validation? (r : Registry) (name : String) : Option ValidationHandler :=
  r.validations.lookup name

def sortedNames {α : Type} (entries : List (String × α)) : List String :=
  (entries.map (·.1)).mergeSort fun a b => a ≤ b

def actionNames (r : Registry) : List String := sortedNames r.actions

def validationNames (r : Registry) : List String := sortedNames r.validations

def summary (r : Registry) : String :=
  let names (l : List String) := Text.join ", " (l.map Text.quoted)
  "Registry \x7b actions: [" ++ names r.actionNames ++ "], validations: ["
    ++ names r.validationNames ++ "] \x7d"

end Registry

namespace Handler

def call (c : Call) : Attempt Trouble c.Value := do
  match ← Attempt.ofPlay (Play.call c) with
  | .ok a => return a
  | .error fault => throw fault.trouble

def fail {α : Type} (text : String) : Attempt Trouble α := throw ⟨text, []⟩

end Handler

end Walkthrough
