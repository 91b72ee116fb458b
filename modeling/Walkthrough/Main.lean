import Walkthrough.Bridge.Connection
import Walkthrough.Command.Work

/-!
The program: errands are performed among the files of the system. A bridge is not started here; the
pipes to it stand beside the program that serves it, under that program's name with `.in` and `.out`
behind it.
-/
namespace Walkthrough.Program

def faultOf : IO.Error → FileFault
  | .noFileOrDirectory .. => .notFound
  | .inappropriateType _ code _ => if code = 20 then .notDirectory else .isDirectory
  | _ => .denied

def readFile (path : String) : IO (Except FileFault String) := do
  try
    match String.fromUTF8? (← IO.FS.readBinFile path) with
    | some text => return .ok text
    | none => return .error .notText
  catch e => return .error (faultOf e)

def saveFile (path text : String) : IO (Except FileFault Unit) := do
  try
    IO.FS.writeFile path text
    return .ok ()
  catch e => return .error (faultOf e)

def listDirectory (path : String) : IO (Option (List String)) := do
  try
    let directory ← IO.FS.realPath path
    let mut names := []
    for entry in ← directory.readDir do
      if (← entry.path.metadata).type == .file then names := entry.fileName :: names
    return some names
  catch _ => return none

def environment : IO Environment := do
  try
    match String.fromUTF8? (← IO.FS.readBinFile "/proc/self/environ") with
    | none => return fun _ => none
    | some text =>
      let pairs := (text.splitOn "\x00").filterMap fun line =>
        match line.splitOn "=" with
        | name :: value :: rest => some (name, Text.join "=" (value :: rest))
        | _ => none
      return fun name => List.lookup name pairs
  catch _ => return fun _ => none

/-- The time of the system in milliseconds, less that of the steady clock. -/
def epoch : IO Nat :=
  IO.FS.withTempFile fun _ path => do
    let written := (← path.metadata).modified
    let steady ← IO.monoMsNow
    return written.sec.toNat * 1000 + written.nsec.toNat / 1000000 - steady

structure Pipes where
  requests : IO.FS.Handle
  replies : IO.FS.Handle
  nextId : IO.Ref Nat
  /-- What has arrived and is not yet read. -/
  arrived : IO.Ref ByteArray
  /-- Nothing more will arrive. -/
  ended : IO.Ref Bool
  /-- Takes in what the bridge sends, up to the end of a line. -/
  listening : IO.Ref (Option (Task (Except IO.Error Unit)))
  context : IO.Ref Context
  epoch : Nat

namespace Pipes

def now (p : Pipes) : IO Nat := do return p.epoch + (← IO.monoMsNow)

partial def listen (p : Pipes) : IO Unit := do
  let bytes ← try p.replies.read 1 catch _ => pure .empty
  if bytes.isEmpty then p.ended.set true
  else
    p.arrived.modify (· ++ bytes)
    unless bytes.toList.contains Bridge.lineBreak do p.listen

def keepListening (p : Pipes) : IO Unit := do
  let idle ← match ← p.listening.get with
    | some task => IO.hasFinished task
    | none => pure true
  if idle && !(← p.ended.get) then p.listening.set (some (← IO.asTask p.listen))

/-- Waits for the reply, having read these bytes, which are lost if it comes too late. -/
partial def receive (p : Pipes) (id : Nat) (o : Bridge.Operation) (deadline : Option Nat)
    (begun : List UInt8) : IO (Option (Except PageFault Json)) := do
  p.keepListening
  let more := !(← p.ended.get)
  let bytes := begun ++ (← p.arrived.swap .empty).toList
  let (result, left) := Bridge.receive more id o.name (Bridge.linesOf bytes)
  if Bridge.isSilent more result then
    let now ← p.now
    if deadline.any (· < now) then return none
    IO.sleep 1
    p.receive id o deadline bytes
  else
    p.arrived.modify (⟨left.flatten.toArray⟩ ++ ·)
    return some result

def request (p : Pipes) (o : Bridge.Operation) (deadline : Option Nat) :
    IO (Option (Except PageFault Json)) := do
  let id ← p.nextId.modifyGet fun n => (n, n + 1)
  try
    p.requests.putStr (o.line id)
    p.requests.flush
    p.receive id o deadline []
  catch _ => return some (.error Bridge.broken)

def sleep (ms : Nat) : IO Unit := IO.sleep (UInt32.ofNat (min ms 4294967295))

def answer (p : Pipes) (deadline : Option Nat) : (r : Request) → IO (Option r.Answer)
  | .call c => do return (← p.request (.ofCall c) deadline).map (Bridge.answer c)
  | .sleep ms => do
    match deadline with
    | none =>
      sleep ms
      return some ()
    | some d =>
      let now ← p.now
      sleep (min ms (d - now))
      return if now + ms ≤ d then some () else none
  | .clock => do return some (← p.now)
  | .context => do return some (← p.context.get)
  | .keep c => do
    p.context.set c
    return some ()
  | .newId => do return some (.ofRandom (← IO.rand 0 (twoTo 128 - 1)))

def perform {α : Type} (p : Pipes) : Play α → IO (Option α)
  | .done a => return some a
  | .crash => return none
  | .ask r next => do
    match ← p.answer none r with
    | some a => p.perform (next a)
    | none => return none
  | .askBy deadline r next => do p.perform (next (← p.answer (some deadline) r))

def connect (s : BrowserSettings) : IO (Except PageFault Pipes) := do
  try
    let requests ← IO.FS.Handle.mk (s.program ++ ".in") .readWrite
    let replies ← IO.FS.Handle.mk (s.program ++ ".out") .read
    return .ok ⟨requests, replies, ← IO.mkRef 1, ← IO.mkRef .empty, ← IO.mkRef false,
      ← IO.mkRef none, ← IO.mkRef .empty, ← Program.epoch⟩
  catch e => return .error (.io (faultOf e).message)

end Pipes

def openPage (s : BrowserSettings) : IO (Except Trouble Pipes) := do
  match ← Pipes.connect s with
  | .error fault => return .error (Bridge.launchTrouble s fault)
  | .ok pipes =>
    match ← pipes.request (.launch s) none with
    | some (.ok _) => return .ok pipes
    | some (.error fault) => return .error (Bridge.launchTrouble s fault)
    | none => return .error (Bridge.launchTrouble s .closed)

def setupReport (f : RunId → Nat → RunReport) : IO RunReport := do
  return f (.ofRandom (← IO.rand 0 (twoTo 128 - 1))) ((← epoch) + (← IO.monoMsNow))

def runShared (s : BrowserSettings) (r : Runner) (cases : List TestCase) :
    IO (Option BatchReport) := do
  match ← openPage s with
  | .error t =>
    let runs ← cases.mapM fun c => setupReport fun id now => .ofOpening id now c t
    return some (.ofRuns runs)
  | .ok pipes => return (← pipes.perform (Batch.runAllAndClose r cases)).map BatchReport.ofRuns

def runIsolated (s : BrowserSettings) (r : Runner) (c : TestCase) : IO RunReport := do
  match ← openPage s with
  | .error t => setupReport fun id now => .ofOpening id now c t
  | .ok pipes =>
    match ← pipes.perform (c.runAndClose r) with
    | some report => return report
    | none => setupReport fun id now => .ofCrash id now c

/-- Cases with pages of their own run one after another, which no report shows. -/
def runBatch (s : BrowserSettings) (r : Runner) (parallel : Nat) (sharedPage : Bool)
    (cases : List TestCase) : IO (Option BatchReport) := do
  if cases.isEmpty then return some (.ofRuns [])
  else if sharedPage then runShared s r cases
  else if Batch.slotsFor parallel cases ≤ Batch.slotLimit then
    return some (.ofRuns (← cases.mapM (runIsolated s r)))
  else return none

def answer (page : IO.Ref (Option Pipes)) : (d : Deed) → IO d.Answer
  | .tell (.normal text) => IO.println text
  | .tell (.alert text) => IO.eprintln text
  | .readFile path => readFile path
  | .listDirectory path => listDirectory path
  | .saveFile path text => saveFile path text
  | .openPage s => do
    match ← openPage s with
    | .error t => return .error t
    | .ok pipes =>
      page.set (some pipes)
      return .ok ()
  | .runCase r c => do
    match ← page.get with
    | none => return none
    | some pipes => pipes.perform (c.runAlone r)
  | .runBatch s r parallel sharedPage cases => runBatch s r parallel sharedPage cases

def perform {α : Type} (page : IO.Ref (Option Pipes)) : Errand α → IO α
  | .done a => return a
  | .act d next => do perform page (next (← answer page d))

def usage : String := "usage: walkthrough execute|batch|validate [options]"

end Walkthrough.Program

open Walkthrough in
def main (args : List String) : IO UInt32 := do
  match Command.parse args with
  | .error .help =>
    IO.println Program.usage
    return 0
  | .error .usage =>
    IO.eprintln Program.usage
    return 2
  | .ok command =>
    let surroundings : Surroundings :=
      ⟨← Program.environment, toString (← IO.FS.realPath ".")⟩
    let ending ← Program.perform (← IO.mkRef none) (command.errand surroundings)
    return UInt32.ofNat ending.exitCode
