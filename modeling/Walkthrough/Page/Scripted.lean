import Walkthrough.Page.Memory

/-!
A page in memory whose calls may take time, and whose answers may be laid down beforehand: for each
call a list of turns, of which the last one stays for good.
-/
namespace Walkthrough

/-- An answer that is laid down. A value is given as JSON, whatever the call returns. -/
inductive Line where
  | error (text : String)
  | notFound (text : String)
  | value (j : Json)
deriving BEq, Repr

structure Turn where
  /-- A delay in place of the page's own. -/
  delay : Option Nat := none
  /-- The answer; without one the page itself answers. -/
  line : Option Line := none
deriving BEq, Repr

structure ScriptedPage where
  memory : MemoryPage := {}
  delay : Nat := 0
  /-- Turns by the name of the call and its target. -/
  script : List (String × List Turn) := []
  /-- The failure with which closing ends, if it does. -/
  closeFault : Option String := none
deriving BEq, Repr

def ValueKind.ofJson : (k : ValueKind) → Json → k.Value
  | .nothing, _ => ()
  | .number, j => j.nat?.getD 0
  | .flag, j => j.bool?.getD false
  | .text, j => j.string?.getD ""
  | .optionalText, j => j.string?
  | .data, j => j

namespace ScriptedPage

def key (c : Call) : String :=
  match c.target? with
  | some t => s!"{c.name} {t.display}"
  | none => c.name

def takeTurn (key : String) :
    List (String × List Turn) → Option Turn × List (String × List Turn)
  | [] => (none, [])
  | (other, turns) :: rest =>
    if other = key then
      match turns with
      | [] => (none, (other, []) :: rest)
      | [last] => (some last, (other, [last]) :: rest)
      | turn :: more => (some turn, (other, more) :: rest)
    else
      let (turn, rest) := takeTurn key rest
      (turn, (other, turns) :: rest)

def answerOf (c : Call) : Line → c.Answer
  | .error text => .error (.automation text)
  | .notFound text => .error (.notFound text)
  | .value j => .ok (c.kind.ofJson j)

def own (p : ScriptedPage) (c : Call) : c.Answer × ScriptedPage :=
  match c, p.closeFault with
  | .close, some text => (.error (.automation text), p)
  | c, _ =>
    let (answer, memory) := p.memory.serve c
    (answer, { p with memory := memory })

/-- A call that is given up has taken its turn and done nothing else. -/
def page : Page ScriptedPage where
  serve c p :=
    let (turn, script) := takeTurn (key c) p.script
    let p := { p with script := script }
    let turn := turn.getD {}
    let (answer, after) := match turn.line with
      | some line => (answerOf c line, p)
      | none => p.own c
    { delay := turn.delay.getD p.delay, answer, after, abandoned := p }

end ScriptedPage

end Walkthrough
