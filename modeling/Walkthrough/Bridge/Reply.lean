import Walkthrough.Json.Record
import Walkthrough.Play.Call

/-!
Replies of the bridge, which arrive as bytes and are read by lines. A reply says which request it
answers. One that answers an earlier request belongs to a call that was given up, and is passed over.
-/
namespace Walkthrough

def ValueKind.read? : (k : ValueKind) → Json → Option k.Value
  | .nothing, _ => some ()
  | .number, j => j.nat?
  | .flag, j => some (j.bool?.getD false)
  | .text, j => j.string?
  | .optionalText, .null => some none
  | .optionalText, j => j.string?.map some
  | .data, j => some j

namespace Bridge

open Json (RecordField Schema Reader)

structure Reply where
  /-- The number of the request. -/
  id : Nat
  ok : Bool
  value : Option Json := none
  error : Option String := none
  notFound : Bool := false
deriving BEq, Repr

namespace Reply

def schema : Schema Reply where
  label := "Reply"
  blank := { id := 0, ok := false }
  fields := [
    .required "id" (Reader.nat "u64") Json.ofNat (·.id) fun v r => { r with id := v },
    .required "ok" Reader.bool Json.bool (·.ok) fun v r => { r with ok := v },
    .optional "value" Reader.value (fun j => j) (·.value) fun v r => { r with value := v },
    .optional "error" Reader.string Json.string (·.error) fun v r => { r with error := v },
    .withDefault "notFound" Reader.bool Json.bool (·.notFound)
      fun v r => { r with notFound := v }]

def parse (line : String) : Except Json.ReadFault Reply :=
  Reader.run schema.read (String.ofList (Text.trimEnd line.toList))

def result (r : Reply) : Except PageFault Json :=
  if r.ok then .ok (r.value.getD .null)
  else
    let text := r.error.getD "unknown bridge error"
    .error (if r.notFound then .notFound text else .automation text)

end Reply

/-- The bytes of a line, with the line break at its end. The last line may lack that. -/
abbrev Line := List UInt8

def lineBreak : UInt8 := 10

def linesOf (bytes : List UInt8) : List Line := bytes.splitBy fun b _ => b != lineBreak

def isFinished (line : Line) : Bool := line.getLast? == some lineBreak

inductive LineFault where
  | notText
  | notReply (fault : Json.ReadFault)
deriving Repr

def LineFault.inReplyTo (operation : String) : LineFault → PageFault
  | .notText => .io "stream did not contain valid UTF-8"
  | .notReply fault => .protocol (s!"invalid reply to '{operation}': " ++ fault.message)

def Reply.ofLine (line : Line) : Except LineFault Reply :=
  match String.fromUTF8? ⟨line.toArray⟩ with
  | none => .error .notText
  | some text => (Reply.parse text).mapError .notReply

/-- What comes of a request, given the lines that have arrived, and the lines that are left. While
more may come, a last line that is not finished is waited for like one that is not there. -/
def receive (more : Bool) (id : Nat) (operation : String) :
    List Line → Except PageFault Json × List Line
  | [] => (.error .closed, [])
  | line :: rest =>
    if more && !isFinished line then (.error .closed, [])
    else
      match Reply.ofLine line with
      | .error fault => (.error (fault.inReplyTo operation), rest)
      | .ok reply =>
        if reply.id < id then receive more id operation rest
        else if reply.id = id then (reply.result, rest)
        else
          (.error (.protocol s!"expected reply {id} for '{operation}', got {reply.id}"), rest)

def isSilent (more : Bool) (result : Except PageFault Json) : Bool :=
  match result with
  | .error .closed => more
  | _ => false

def answer (c : Call) : Except PageFault Json → c.Answer
  | .error fault => .error fault
  | .ok value =>
    match c.kind.read? value with
    | some read => .ok read
    | none => .error (.protocol (s!"'{c.name}' returned " ++ value.compact))

def isLate (id : Nat) (line : Line) : Bool :=
  match Reply.ofLine line with
  | .ok reply => reply.id < id
  | .error _ => false

def passLate (id : Nat) : Nat → List Line → List Line
  | 0, lines => lines
  | _, [] => []
  | most + 1, line :: rest =>
    if isFinished line && isLate id line then passLate id most rest else line :: rest

structure Departure where
  /-- The most late lines that were passed over. -/
  lines : Nat := 0
  /-- The most bytes that were read of the line behind them, whose line break was not. They are
  lost. -/
  bytes : Nat := 0
deriving DecidableEq, Repr

def leave (id : Nat) (d : Departure) (bytes : List UInt8) : List UInt8 :=
  let unread := (passLate id d.lines (linesOf bytes)).flatten
  unread.drop (min d.bytes (unread.takeWhile (· != lineBreak)).length)

structure Exchange where
  operation : String
  /-- How far a caller reads who does not wait for the reply. -/
  leaves : Option Departure := none
deriving DecidableEq, Repr

end Bridge

end Walkthrough
