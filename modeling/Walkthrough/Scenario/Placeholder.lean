import Walkthrough.Document.Case
import Walkthrough.Fault.Code
import Walkthrough.Settings.Environment

/-!
Placeholders `${NAME}` in the paths that steps go to. A text is cut into pieces once, from left to
right, and every placeholder is replaced by its value.
-/
namespace Walkthrough

namespace Placeholder

inductive Piece where
  | char (c : Char)
  | variable (name : List Char)
deriving DecidableEq, Repr

def isNameChar (c : Char) : Bool :=
  c.isAlphanum || c == '_' || c == '.' || c == ':' || c == '-'

def name? : List Char → Option (List Char × List Char)
  | '$' :: '\x7b' :: rest =>
    match rest.takeWhile isNameChar, rest.dropWhile isNameChar with
    | first :: more, '\x7d' :: tail => some (first :: more, tail)
    | _, _ => none
  | _ => none

theorem length_lt_of_name? {cs name tail : List Char} (h : name? cs = some (name, tail)) :
    tail.length < cs.length := by
  unfold name? at h
  split at h
  · rename_i rest
    have shorter : (rest.dropWhile isNameChar).length ≤ rest.length :=
      (List.dropWhile_suffix _).length_le
    split at h
    · rename_i eq
      simp only [Option.some.injEq, Prod.mk.injEq] at h
      rw [eq] at shorter
      simp only [List.length_cons] at shorter ⊢
      rw [← h.2]
      omega
    · cases h
  · cases h

def pieces : List Char → List Piece
  | [] => []
  | c :: rest =>
    match found : name? (c :: rest) with
    | some (name, tail) =>
      have := length_lt_of_name? found
      .variable name :: pieces tail
    | none => .char c :: pieces rest
termination_by cs => cs.length
decreasing_by
  · assumption
  · exact Nat.lt_succ_self rest.length

end Placeholder

/-- Values for placeholders: given ones, and behind them perhaps those of the environment. -/
structure Placeholders where
  values : List (String × String) := []
  environment : Option Environment := none

inductive PlaceholderFault where
  | undefined (name : String)
deriving DecidableEq, Repr

def PlaceholderFault.message : PlaceholderFault → String
  | .undefined name =>
    FaultCode.variableNotFound.label
      ("Variable '" ++ name ++ "' referenced as $\x7b" ++ name ++ "\x7d is not defined")

namespace Placeholders

open Placeholder (Piece pieces)

def lookup? (p : Placeholders) (name : String) : Option String :=
  match p.values.lookup name with
  | some value => some value
  | none => p.environment.bind (· name)

def expandPiece (p : Placeholders) : Piece → Except PlaceholderFault (List Char)
  | .char c => .ok [c]
  | .variable name =>
    match p.lookup? (String.ofList name) with
    | some value => .ok value.toList
    | none => .error (.undefined (String.ofList name))

def expandPieces (p : Placeholders) : List Piece → Except PlaceholderFault (List Char)
  | [] => .ok []
  | piece :: rest => do
    let first ← p.expandPiece piece
    let others ← p.expandPieces rest
    return first ++ others

/-- Replaces every placeholder by its value. Values are not expanded again. -/
def expand (p : Placeholders) (text : String) : Except PlaceholderFault String :=
  (p.expandPieces (pieces text.toList)).map String.ofList

def applyStep (p : Placeholders) (s : Step) : Except PlaceholderFault Step :=
  match s.action, s.path with
  | .goto, some path => (p.expand path).map fun expanded => { s with path := some expanded }
  | _, _ => .ok s

/-- Expands the paths of steps up to the first fault; the steps from there on stay as they are. -/
def applySteps (p : Placeholders) : List Step → List Step × Option PlaceholderFault
  | [] => ([], none)
  | s :: rest =>
    match p.applyStep s with
    | .error fault => (s :: rest, some fault)
    | .ok expanded =>
      let (others, fault) := p.applySteps rest
      (expanded :: others, fault)

def apply (p : Placeholders) (c : TestCase) : TestCase × Option PlaceholderFault :=
  let (steps, fault) := p.applySteps c.steps
  ({ c with steps := steps }, fault)

end Placeholders

end Walkthrough
