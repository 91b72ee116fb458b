import Walkthrough.Command.Errand
import Walkthrough.Command.Options
import Walkthrough.Preflight
import Walkthrough.Report.Schema

/-!
The errands of commands: running one test case, running all those of a directory, and checking one
without running it. Reports and problems are summed up in lines for a reader.
-/
namespace Walkthrough

def Status.icon : Status → String
  | .passed => "✅"
  | .failed => "❌"

namespace StepEntry

def summary (e : StepEntry) : List String :=
  s!"   {e.status.icon} {e.title} ({e.durationMs}ms)"
    :: (e.error.toList.map fun text => "      " ++ text)
    ++ e.softFailures.map fun f => "      ⚠️  " ++ f.message

end StepEntry

namespace RunReport

def summary (r : RunReport) : List String :=
  s!"{r.status.icon} {r.testCase} ({r.durationMs}ms)" :: r.steps.flatMap StepEntry.summary

end RunReport

def Problem.summary (p : Problem) : String := s!"[{p.code.text}] {p.message}"

def BrowserChoice.settings (c : BrowserChoice) (env : Environment) : BrowserSettings :=
  let base := BrowserSettings.ofEnvironment env
  { base with
    baseUrl := c.baseUrl.or base.baseUrl
    browser := (c.browser.map Environment.lowerAscii).getD base.browser
    headless := !c.headed && base.headless }

inductive Ending where
  | passed
  | failed
  | crashed
deriving DecidableEq, Repr

namespace Ending

def ofPassed (passed : Bool) : Ending := if passed then .passed else .failed

def exitCode : Ending → Nat
  | .passed => 0
  | .failed => 1
  | .crashed => 101

end Ending

structure Surroundings where
  environment : Environment
  /-- The working directory. -/
  directory : String

abbrev Work (α : Type) := ExceptT Trouble Errand α

namespace Work

def say (text : String) : Work Unit := ExceptT.lift (Errand.say text)

def sayAll : List String → Work Unit
  | [] => return ()
  | line :: rest => do
    say line
    sayAll rest

def warnAll : List String → Work Unit
  | [] => return ()
  | line :: rest => do
    ExceptT.lift (Errand.warn line)
    warnAll rest

def orFail {α : Type} : Except Trouble α → Work α
  | .ok a => return a
  | .error t => throw t

def openPage (s : BrowserSettings) : Work Unit := do
  let opened ← ExceptT.lift (Errand.deed (.openPage s))
  orFail opened

def loadCase (env : Environment) (path : String) : Work TestCase := do
  let content ← ExceptT.lift (Errand.deed (.readFile path))
  match Scenario.caseOf path content with
  | .error fault => throw fault.trouble
  | .ok c =>
    match Placeholders.apply { environment := some env } c with
    | (_, some fault) => throw ⟨fault.message, []⟩
    | (expanded, none) => return expanded

def readAll : List String → Errand (List (String × Except FileFault String))
  | [] => return []
  | path :: rest => do
    let content ← Errand.deed (.readFile path)
    let others ← readAll rest
    return (path, content) :: others

def loadCases (env : Environment) (directory : String) : Work (List TestCase) := do
  let listed ← ExceptT.lift (Errand.deed (.listDirectory directory))
  match listed with
  | none => throw (LoadFault.noDirectory directory).trouble
  | some names =>
    let files ← ExceptT.lift (readAll (Scenario.casePaths directory names))
    match Scenario.enabledOf { environment := some env } files with
    | .error fault => throw fault.trouble
    | .ok cases => return Scenario.inOrder cases

def saveReport (report : Json) : Option String → Work Unit
  | some path => do
    match ← ExceptT.lift (Errand.deed (.saveFile path report.indented)) with
    | .error fault => throw ⟨s!"Failed to write report to {path}", [fault.message]⟩
    | .ok () => say s!"📄 Report saved to: {path}"
  | none => say ("\n--- Run Report ---\n" ++ report.indented)

def strictly (strict : Bool) (s : RunSettings) : RunSettings :=
  if strict then { s with strictTargets := true, strictValidationTypes := true } else s

def check (problems : List Problem) (strict : Bool) : Work Unit := do
  warnAll (problems.map fun p => "   ⚠️  " ++ p.summary)
  if strict && !problems.isEmpty then
    throw ⟨s!"Test case has {problems.length} validation problem(s)", []⟩

def execute (s : Surroundings) (file : String) (output : Option String) (strict : Bool)
    (choice : BrowserChoice) : Work Ending := do
  say "🚀 Runner Initializing..."
  let c ← loadCase s.environment file
  say s!"📋 Test case loaded: {c.description}"
  let settings := strictly strict (RunSettings.ofEnvironment s.environment)
  check (c.problems .builtin settings) strict
  openPage (choice.settings s.environment)
  say "▶️  Starting Execution..."
  match ← ExceptT.lift (Errand.deed (.runCase ⟨.builtin, settings, s.directory⟩ c)) with
  | none => return .crashed
  | some (.error fault) => throw ⟨fault.report, []⟩
  | some (.ok report) =>
    sayAll report.summary
    say "🏁 Execution Finished."
    saveReport report.toJson output
    return .ofPassed report.passed

def countProblems (settings : RunSettings) : List TestCase → Work Unit
  | [] => return ()
  | c :: rest => do
    let count := (c.problems .builtin settings).length
    if count ≠ 0 then say s!"   ⚠️  {c.description}: {count} validation problem(s)"
    countProblems settings rest

def batch (s : Surroundings) (directory : String) (parallel : Nat) (sharedPage : Bool)
    (output : Option String) (choice : BrowserChoice) : Work Ending := do
  say "🚀 Runner Initializing..."
  let cases ← loadCases s.environment directory
  if cases.isEmpty then
    say s!"📭 No enabled test cases in {directory}"
    return .passed
  say s!"📋 {cases.length} test case(s) loaded"
  let settings := RunSettings.ofEnvironment s.environment
  countProblems settings cases
  say "▶️  Starting Execution..."
  let browser := choice.settings s.environment
  let runner : Runner := ⟨.builtin, settings, s.directory⟩
  match ← ExceptT.lift (Errand.deed (.runBatch browser runner parallel sharedPage cases)) with
  | none => return .crashed
  | some report =>
    sayAll (report.runs.flatMap RunReport.summary)
    let passed := (report.runs.filter RunReport.passed).length
    say s!"🏁 Execution Finished: {passed}/{report.runs.length} passed."
    saveReport report.toJson output
    return .ofPassed report.passed

def validate (s : Surroundings) (file : String) : Work Ending := do
  let c ← loadCase s.environment file
  match c.problems .builtin (.ofEnvironment s.environment) with
  | [] =>
    say s!"✅ {c.description} is valid ({c.steps.length} steps)"
    return .passed
  | problems =>
    say s!"❌ {c.description} has {problems.length} problem(s):"
    sayAll (problems.map fun p => "   " ++ p.summary)
    return .failed

end Work

namespace Command

def work (s : Surroundings) : Command → Work Ending
  | .execute file output strict choice => Work.execute s file output strict choice
  | .batch directory parallel sharedPage output choice =>
    Work.batch s directory parallel sharedPage output choice
  | .validate file => Work.validate s file

def errand (s : Surroundings) (c : Command) : Errand Ending := do
  match ← (c.work s).run with
  | .ok ending => return ending
  | .error trouble =>
    Errand.warn ("❌ " ++ trouble.message)
    return .failed

end Command

end Walkthrough
