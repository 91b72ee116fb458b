import Walkthrough.Json.Printer

/-!
Values that the steps of a run hand on to later steps, in order of their names.
-/
namespace Walkthrough

structure Context where
  values : List (String × Json) := []
deriving BEq, Repr

namespace Context

def empty : Context := {}

instance : Inhabited Context := ⟨empty⟩

def get? (c : Context) (name : String) : Option Json := c.values.lookup name

def set (c : Context) (name : String) (value : Json) : Context :=
  ⟨Json.insertMember name value c.values⟩

def extend (c : Context) (entries : List (String × Json)) : Context :=
  entries.foldl (fun c (name, value) => c.set name value) c

def remove (c : Context) (name : String) : Context :=
  ⟨c.values.filter (·.1 != name)⟩

def ofEntries (entries : List (String × Json)) : Context := empty.extend entries

def size (c : Context) : Nat := c.values.length

def isEmpty (c : Context) : Bool := c.values.isEmpty

def text? (c : Context) (name : String) : Option String :=
  (c.get? name).map fun
    | .string s => s
    | other => other.compact

end Context

end Walkthrough
