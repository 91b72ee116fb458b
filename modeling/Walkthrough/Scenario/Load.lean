import Walkthrough.Document.Schema
import Walkthrough.Fault.Trouble
import Walkthrough.Scenario.FileTree
import Walkthrough.Scenario.Placeholder

/-!
Loading of test cases, one from a file or all the enabled ones of a directory.
-/
namespace Walkthrough

inductive LoadFault where
  | unreadable (path : String) (fault : FileFault)
  | unparsable (path : String) (fault : Json.ReadFault)
  | undefined (path : String) (fault : PlaceholderFault)
  | noDirectory (path : String)
deriving DecidableEq, Repr

namespace LoadFault

def context : LoadFault → String
  | .unreadable path _ => s!"Failed to read test case file {Text.quotedPath path}"
  | .unparsable path _ => s!"Failed to parse test case JSON {Text.quotedPath path}"
  | .undefined path _ => s!"Failed to expand placeholders in {Text.quotedPath path}"
  | .noDirectory path =>
    FaultCode.scenarioFileNotFound.label s!"Scenario directory not found: {Text.quotedPath path}"

def trouble (f : LoadFault) : Trouble :=
  ⟨f.context, match f with
    | .unreadable _ fault => [fault.message]
    | .unparsable _ fault => [fault.message]
    | .undefined _ fault => [fault.message]
    | .noDirectory _ => []⟩

def message (f : LoadFault) : String := f.trouble.message

end LoadFault

namespace Scenario

def caseOf (path : String) : Except FileFault String → Except LoadFault TestCase
  | .error fault => .error (.unreadable path fault)
  | .ok text =>
    match TestCase.parse text with
    | .error fault => .error (.unparsable path fault)
    | .ok c => .ok c

def loadCase (t : FileTree) (path : String) : Except LoadFault TestCase :=
  caseOf path (t.readText path)

def isCaseName (name : String) : Bool :=
  name.endsWith ".json" && name != ".json"

/-- Ordered cases come first, by their order; all others keep their places. -/
def comesFirst (a b : TestCase) : Bool :=
  match a.testOrder, b.testOrder with
  | some x, some y => !y.lt x
  | some _, none => true
  | none, some _ => false
  | none, none => true

def inOrder (cases : List TestCase) : List TestCase := cases.mergeSort comesFirst

/-- The enabled test cases among files that were read. Files that hold no test case and those that
are disabled are passed over. -/
def enabledOf (placeholders : Placeholders) :
    List (String × Except FileFault String) → Except LoadFault (List TestCase)
  | [] => .ok []
  | (path, content) :: rest =>
    match caseOf path content with
    | .error _ => enabledOf placeholders rest
    | .ok c =>
      if c.enabled then
        match placeholders.apply c with
        | (_, some fault) => .error (.undefined path fault)
        | (expanded, none) => (enabledOf placeholders rest).map (expanded :: ·)
      else enabledOf placeholders rest

def casePaths (directory : String) (names : List String) : List String :=
  ((names.filter isCaseName).mergeSort fun a b => a ≤ b).map (Path.below directory)

def loadDirectory (t : FileTree) (placeholders : Placeholders) (path : String) :
    Except LoadFault (List TestCase) :=
  match t.list path with
  | none => .error (.noDirectory path)
  | some names =>
    (enabledOf placeholders ((casePaths path names).map fun p => (p, t.readText p))).map inOrder

end Scenario

end Walkthrough
