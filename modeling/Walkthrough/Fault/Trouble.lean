import Walkthrough.Text.Blank

/-!
What is told of a failure that has no code of its own: a text, and the texts of its causes.
-/
namespace Walkthrough

structure Trouble where
  text : String
  causes : List String := []
deriving DecidableEq, Repr

namespace Trouble

def message (t : Trouble) : String := Text.join ": " (t.text :: t.causes)

def inside (t : Trouble) (outer : String) : Trouble := ⟨outer, t.text :: t.causes⟩

end Trouble

inductive PageFault where
  | notFound (target : String)
  | automation (text : String)
  | closed
  | io (text : String)
  | protocol (text : String)
deriving DecidableEq, Repr

namespace PageFault

def message : PageFault → String
  | .notFound target => s!"no element matches '{target}'"
  | .automation text => text
  | .closed => "browser bridge closed"
  | .io text => s!"browser bridge I/O error: {text}"
  | .protocol text => s!"browser bridge protocol error: {text}"

def trouble : PageFault → Trouble
  | .io text => ⟨(PageFault.io text).message, [text]⟩
  | f => ⟨f.message, []⟩

end PageFault

end Walkthrough
