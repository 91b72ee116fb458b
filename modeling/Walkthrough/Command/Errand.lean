import Walkthrough.Batch
import Walkthrough.Scenario.Load
import Walkthrough.Settings.Browser

/-!
Errands: what a command does, as a tree of deeds with the errand that follows every possible answer.
Here an errand is performed among the files of a tree, on pages that a host opens.
-/
namespace Walkthrough

inductive Notice where
  | normal (text : String)
  /-- A text about a fault. -/
  | alert (text : String)
deriving DecidableEq, Repr

inductive Deed where
  | tell (n : Notice)
  | readFile (path : String)
  | listDirectory (path : String)
  | saveFile (path text : String)
  | openPage (s : BrowserSettings)
  /-- Runs a test case on the page that is open, and closes the page. -/
  | runCase (r : Runner) (c : TestCase)
  | runBatch (s : BrowserSettings) (r : Runner) (parallel : Nat) (sharedPage : Bool)
      (cases : List TestCase)

abbrev Deed.Answer : Deed → Type
  | .tell _ => Unit
  | .readFile _ => Except FileFault String
  | .listDirectory _ => Option (List String)
  | .saveFile _ _ => Except FileFault Unit
  | .openPage _ => Except Trouble Unit
  | .runCase _ _ => Option (Except StepFault RunReport)
  | .runBatch _ _ _ _ _ => Option BatchReport

inductive Errand (α : Type) where
  | done (a : α)
  | act (d : Deed) (next : d.Answer → Errand α)

namespace Errand

variable {α β : Type}

def bind : Errand α → (α → Errand β) → Errand β
  | .done a, next => next a
  | .act d rest, next => .act d fun answer => (rest answer).bind next

instance : Monad Errand where
  pure := .done
  bind := bind

def deed (d : Deed) : Errand d.Answer := .act d .done

def say (text : String) : Errand Unit := deed (.tell (.normal text))

def warn (text : String) : Errand Unit := deed (.tell (.alert text))

end Errand

structure Host (σ : Type) where
  page : Page σ
  opener : BrowserSettings → Opener σ

structure Desk (σ : Type) where
  files : FileTree := {}
  notices : List Notice := []
  /-- The page that is open. -/
  current : Option σ := none
  /-- What became of the pages that were opened, or could not be. -/
  sessions : List (Session σ) := []

def TestCase.runAlone (c : TestCase) (r : Runner) : Play (Except StepFault RunReport) := do
  let result ← (c.run r).run
  let _ ← Play.call .close
  return result

namespace Desk

variable {σ : Type}

def answer (h : Host σ) (d : Desk σ) : (deed : Deed) → deed.Answer × Desk σ
  | .tell n => ((), { d with notices := d.notices ++ [n] })
  | .readFile path => (d.files.readText path, d)
  | .listDirectory path => (d.files.list path, d)
  | .saveFile path text =>
    match d.files.save path text with
    | .error fault => (.error fault, d)
    | .ok files => (.ok (), { d with files := files })
  | .openPage s =>
    match h.opener s d.sessions.length with
    | .error t => (.error t, { d with sessions := d.sessions ++ [{}] })
    | .ok state => (.ok (), { d with current := some state })
  | .runCase r c =>
    match d.current with
    | none => (none, d)
    | some state =>
      let course := (c.runAlone r).perform h.page { page := state }
      let session := ⟨course.calls, some course.world.page, 0, course.world.now⟩
      (course.result, { d with current := none, sessions := d.sessions ++ [session] })
  | .runBatch s r parallel sharedPage cases =>
    let course := Batch.run h.page (h.opener s) r parallel sharedPage cases
    (course.report, { d with sessions := d.sessions ++ course.sessions })

end Desk

def Errand.perform {σ α : Type} (h : Host σ) : Errand α → Desk σ → α × Desk σ
  | .done a, d => (a, d)
  | .act deed next, d =>
    let (answer, after) := d.answer h deed
    (next answer).perform h after

end Walkthrough
