import Walkthrough.Number.Decimal

/-!
The command line: what it may say, and how it is read. Options stand in any order, and none of them
twice; the first argument out of place decides.
-/
namespace Walkthrough

structure BrowserChoice where
  baseUrl : Option String := none
  browser : Option String := none
  headed : Bool := false
deriving DecidableEq, Repr

inductive Command where
  | execute (file : String) (output : Option String) (strict : Bool) (choice : BrowserChoice)
  | batch (directory : String) (parallel : Nat) (sharedPage : Bool) (output : Option String)
      (choice : BrowserChoice)
  | validate (file : String)
deriving DecidableEq, Repr

inductive Refusal where
  /-- Only help was asked for. -/
  | help
  | usage
deriving DecidableEq, Repr

namespace Command

inductive ValueRule where
  | none
  /-- A path is not empty. -/
  | path
  | text
  | number
deriving DecidableEq, Repr

def ValueRule.admits : ValueRule → String → Bool
  | .path, value => value != ""
  | .number, value => (numeral? wordBound value).isSome
  | _, _ => true

structure Switch where
  name : String
  letter : Option Char := none
  rule : ValueRule := .none
deriving DecidableEq, Repr

inductive Form where
  /-- Two dashes alone: what follows is no option. -/
  | separator
  | long (name : String) (value : Option String)
  | short (letter : Char) (rest : List Char)
  | plain
deriving DecidableEq, Repr

def formOf (arg : String) : Form :=
  match arg.toList with
  | ['-', '-'] => .separator
  | '-' :: '-' :: cs =>
    let name := String.ofList (cs.takeWhile (· != '='))
    match cs.dropWhile (· != '=') with
    | [] => .long name none
    | _ :: value => .long name (some (String.ofList value))
  | '-' :: letter :: rest => .short letter rest
  | _ => .plain

def attached : List Char → Option String
  | [] => none
  | '=' :: value => some (String.ofList value)
  | value => some (String.ofList value)

abbrev Given := List (String × String)

def put (given : Given) (s : Switch) (value : String) : Except Refusal Given :=
  if given.any (·.1 == s.name) then .error .usage
  else if s.rule.admits value then .ok ((s.name, value) :: given)
  else .error .usage

def switchOf (known : List Switch) : Form → Except Refusal (Option (Switch × Option String))
  | .separator => .ok none
  | .plain => .error .usage
  | .long name value =>
    match known.find? (·.name == name) with
    | some s => .ok (some (s, value))
    | none => .error (if name = "help" ∧ value = none then .help else .usage)
  | .short letter rest =>
    match known.find? (·.letter == some letter) with
    | some s => .ok (some (s, attached rest))
    | none => .error (if letter = 'h' then .help else .usage)

def readOptions (known : List Switch) (given : Given) : List String → Except Refusal Given
  | [] => .ok given
  | arg :: rest => do
    match ← switchOf known (formOf arg) with
    | none => if rest.isEmpty then return given else throw .usage
    | some (s, value) =>
      if s.rule = .none then
        if value.isSome then throw .usage else readOptions known (← put given s "") rest
      else
        match value, rest with
        | some v, rest => readOptions known (← put given s v) rest
        | none, [] => throw .usage
        | none, v :: rest =>
          if formOf v = .plain then readOptions known (← put given s v) rest else throw .usage

def browserSwitches : List Switch :=
  [⟨"base-url", none, .text⟩, ⟨"browser", none, .text⟩, ⟨"headed", none, .none⟩]

def executeSwitches : List Switch :=
  [⟨"file", some 'f', .path⟩, ⟨"output", some 'o', .path⟩, ⟨"strict", none, .none⟩]
    ++ browserSwitches

def batchSwitches : List Switch :=
  [⟨"dir", some 'd', .path⟩, ⟨"parallel", some 'p', .number⟩, ⟨"shared-page", none, .none⟩,
    ⟨"output", some 'o', .path⟩] ++ browserSwitches

def validateSwitches : List Switch := [⟨"file", some 'f', .path⟩]

namespace Given

def has (given : Given) (name : String) : Bool := (given.lookup name).isSome

def need (given : Given) (name : String) : Except Refusal String :=
  match given.lookup name with
  | some value => .ok value
  | none => .error .usage

def choice (given : Given) : BrowserChoice :=
  ⟨given.lookup "base-url", given.lookup "browser", given.has "headed"⟩

end Given

def names : List String := ["execute", "batch", "validate", "help"]

def parse : List String → Except Refusal Command
  | "execute" :: rest => do
    let given ← readOptions executeSwitches [] rest
    return .execute (← given.need "file") (given.lookup "output") (given.has "strict") given.choice
  | "batch" :: rest => do
    let given ← readOptions batchSwitches [] rest
    let parallel := ((given.lookup "parallel").bind (numeral? wordBound)).getD 1
    return .batch (← given.need "dir") parallel (given.has "shared-page") (given.lookup "output")
      given.choice
  | "validate" :: rest => do
    let given ← readOptions validateSwitches [] rest
    return .validate (← given.need "file")
  | ["help"] => .error .help
  | ["help", name] => .error (if names.contains name then .help else .usage)
  | arg :: _ =>
    match switchOf [] (formOf arg) with
    | .error refusal => .error refusal
    | .ok _ => .error .usage
  | [] => .error .usage

end Command

end Walkthrough
