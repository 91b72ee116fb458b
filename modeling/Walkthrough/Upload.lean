import Walkthrough.Fault.Step
import Walkthrough.Scenario.FileTree

/-!
Files of an upload: contents given in the document, or paths of files that the browser reads.
-/
namespace Walkthrough

inductive Payload where
  | path (path : String)
  | content (name : String) (mimeType : Option String) (bytes : List UInt8)
deriving DecidableEq, Repr

namespace Upload

def defaultName : String := "upload.bin"

def resolve (directory path : String) : PathBase → String
  | .none => path
  | .workingDirectory => if Path.isRooted path then path else Path.below directory path

def dataPaths : Option Json → List String
  | some (.string path) => [path].filter (· != "")
  | some (.array items) => (items.filterMap Json.string?).filter (· != "")
  | _ => []

/-- What one entry stands for. Content takes precedence over a path, and an entry without either
stands for nothing. -/
def ofFile (directory : String) (base : PathBase) (file : UploadFile) :
    Except Base64.Fault (Option Payload) :=
  match file.contentBase64 with
  | some encoded => do
    let bytes ← Base64.decode (Text.trim encoded).toUTF8.toList
    return some (.content (file.name.getD defaultName) file.mimeType bytes)
  | none =>
    match file.path with
    | some path => .ok (if path = "" then none else some (.path (resolve directory path base)))
    | none => .ok none

def ofFiles (directory : String) (base : PathBase) :
    List UploadFile → Except Base64.Fault (List Payload)
  | [] => .ok []
  | file :: rest => do
    let first ← ofFile directory base file
    let others ← ofFiles directory base rest
    return first.toList ++ others

def collect (directory : String) (s : Step) : Except StepFault (List Payload) :=
  match ofFiles directory s.resolveFrom s.files with
  | .error fault => .error (.action s.action.name (.content fault))
  | .ok [] =>
    let resolved := fun path => Payload.path (resolve directory path s.resolveFrom)
    match (dataPaths s.data).map resolved with
    | [] => .error .noUploadSource
    | payloads => .ok payloads
  | .ok payloads => .ok payloads

def isSource (file : UploadFile) : Bool :=
  file.contentBase64.isSome || file.path.any (· != "")

def namesPath : Option Json → Bool
  | some (.string path) => path != ""
  | some (.array items) => items.any fun item => item.string?.any (· != "")
  | _ => false

def hasSource (s : Step) : Bool := s.files.any isSource || namesPath s.data

end Upload

end Walkthrough
