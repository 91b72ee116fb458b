import Walkthrough.Bridge.Operation
import Walkthrough.Bridge.Reply
import Walkthrough.Play.World

/-!
The connection to a bridge: requests are numbered from 1 on, and the first one launches the browser.
A page that is reached through a bridge serves every call by one request.
-/
namespace Walkthrough.Bridge

/-- The other end of a connection: for a request line it sends bytes back, and goes on or ends. -/
structure Peer (β : Type) where
  respond : String → β → List UInt8 × Option β

structure Connection (β : Type) where
  nextId : Nat := 1
  /-- What has arrived and is not yet read. -/
  unread : List UInt8 := []
  /-- The other end, until it ends. -/
  peer : Option β
  /-- The request lines sent so far. -/
  sent : List String := []

def broken : PageFault := .io "Broken pipe (os error 32)"

namespace Connection

variable {β : Type}

def send (p : Peer β) (o : Operation) (c : Connection β) : Connection β :=
  match c.peer with
  | none => { c with nextId := c.nextId + 1 }
  | some state =>
    let line := o.line c.nextId
    let (bytes, after) := p.respond line state
    { nextId := c.nextId + 1, unread := c.unread ++ bytes, peer := after, sent := c.sent ++ [line] }

def exchange (p : Peer β) (o : Operation) (c : Connection β) :
    Except PageFault Json × Connection β :=
  let asked := c.send p o
  if c.peer.isSome then
    let (result, left) := receive asked.peer.isSome c.nextId o.name (linesOf asked.unread)
    (result, { asked with unread := left.flatten })
  else (.error broken, asked)

end Connection

variable {β : Type}

/-- A bridge that stays silent for so long counts as closed. Once its page is closed it ends, if it
has not done so by itself. A call that is given up while the bridge is silent has read all that
there is; another one has read nothing. -/
def page (p : Peer β) (silence : Nat) : Page (Connection β) where
  serve c connection :=
    let (result, after) := connection.exchange p (.ofCall c)
    let silent := isSilent after.peer.isSome result
    { delay := if silent then silence else 0
      answer := answer c result
      after := if c == .close then { after with peer := none } else after
      abandoned := if silent then after else connection.send p (.ofCall c) }

def launch (p : Peer β) (s : BrowserSettings) :
    Except String β → Except PageFault Unit × Connection β
  | .error text => (.error (.io text), { peer := none })
  | .ok state =>
    let (result, connection) := Connection.exchange p (.launch s) { peer := some state }
    (result.map fun _ => (), connection)

def launchTrouble (s : BrowserSettings) (fault : PageFault) : Trouble :=
  fault.trouble.inside s!"Failed to start {s.browser} through '{s.program}'"

def opener (p : Peer β) (s : BrowserSettings) (start : String → Except String β) :
    Opener (Connection β) := fun _ =>
  match launch p s (start s.program) with
  | (.ok (), connection) => .ok connection
  | (.error fault, _) => .error (launchTrouble s fault)

end Walkthrough.Bridge
