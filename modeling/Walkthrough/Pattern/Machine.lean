import Std.Data.HashMap
import Walkthrough.Pattern.Fault
import Walkthrough.Pattern.Regex
import Walkthrough.Unicode.ByteRanges

/-!
The size of the machines that search for an expression, one that reads a text forwards and one that
reads it backwards, byte by byte. Each state takes 32 bytes; a table of edges takes 8 more for each
edge and a branching state 4 for each branch. Repetition copies the states of what is repeated.
-/
namespace Walkthrough.Pattern

open Unicode (ByteRange CodeSet)

inductive Direction where
  | forwards
  | backwards
deriving DecidableEq, Repr

/-- A machine under construction: how many states it has, which are numbered in order, and how many
bytes its tables and branches take. -/
structure Machine where
  states : Nat
  tables : Nat
deriving DecidableEq, Repr

namespace Machine

def limit : Nat := 10485760

def bytes (m : Machine) : Nat := 32 * m.states + m.tables

def isOver (m : Machine) : Bool := limit < m.bytes

def addStates (m : Machine) (count : Nat) : Machine := { m with states := m.states + count }

def addTable (m : Machine) (edges : Nat) : Machine := ⟨m.states + 1, m.tables + 8 * edges⟩

def addBranches (m : Machine) (count : Nat) : Machine := { m with tables := m.tables + 4 * count }

end Machine

/-- A machine whose last part is complete. What follows becomes a branch of the state that the part
ends in, if that one is a branching state. -/
structure Part where
  machine : Machine
  endsInBranch : Bool
deriving DecidableEq, Repr

def Part.continued (p : Part) : Machine :=
  if p.endsInBranch then p.machine.addBranches 1 else p.machine

def hashOf (numbers : List Nat) : UInt64 :=
  numbers.foldl (fun h n => (h ^^^ UInt64.ofNat n) * 1099511628211) 14695981039346656037

structure Edge where
  range : ByteRange
  target : Nat
deriving DecidableEq, Repr

def Edge.numbers (e : Edge) : List Nat := [e.range.first.toNat, e.range.last.toNat, e.target]

/-- A table that is not complete: its edges, last first, and the bytes of an edge whose target is
not known yet. -/
structure OpenTable where
  edges : List Edge
  pending : Option ByteRange

def OpenTable.close (t : OpenTable) (target : Nat) : OpenTable :=
  match t.pending with
  | some range => ⟨⟨range, target⟩ :: t.edges, none⟩
  | none => t

/-- Construction of the tables of a set. Tables that are alike are shared as long as they are
remembered: there is one place for all tables whose hashes leave the same remainder. -/
structure SetTables where
  machine : Machine
  remembered : Std.HashMap Nat (List Edge × Nat)

namespace SetTables

def places : UInt64 := 10000

def tableFor (b : SetTables) (edges : List Edge) : Nat × SetTables :=
  let edges := edges.reverse
  let place := (hashOf (edges.flatMap Edge.numbers) % places).toNat
  match b.remembered[place]? with
  | some (known, number) =>
    if known = edges then (number, b) else add place edges
  | none => add place edges
where
  add (place : Nat) (edges : List Edge) : Nat × SetTables :=
    let number := b.machine.states
    (number, ⟨b.machine.addTable edges.length, b.remembered.insert place (edges, number)⟩)

def finish (target : Nat) : List OpenTable → SetTables → Nat × SetTables
  | [], b => (target, b)
  | t :: rest, b =>
    let (next, b) := finish target rest b
    b.tableFor (t.close next).edges

/-- Keeps the given number of tables open, and closes those after them. -/
def keepOpen (target : Nat) : Nat → List OpenTable → SetTables → List OpenTable × SetTables
  | _, [], b => ([], b)
  | 0, t :: rest, b =>
    let (next, b) := finish target rest b
    ([t.close next], b)
  | n + 1, t :: rest, b =>
    let (kept, b) := keepOpen target n rest b
    (t :: kept, b)

/-- How many open tables a text goes through that shares its first bytes with the one before. -/
def shared : List ByteRange → List OpenTable → Nat
  | r :: ranges, t :: tables => if t.pending = some r then shared ranges tables + 1 else 0
  | _, _ => 0

def append (ranges : List ByteRange) : List OpenTable → List OpenTable
  | [] => ranges.map fun r => ⟨[], some r⟩
  | [t] =>
    match ranges with
    | [] => [t]
    | r :: more => { t with pending := some r } :: more.map fun r => ⟨[], some r⟩
  | t :: rest => t :: append ranges rest

def addText (target : Nat) (ranges : List ByteRange) (tables : List OpenTable) (b : SetTables) :
    List OpenTable × SetTables :=
  let n := shared ranges tables
  let (kept, b) := keepOpen target n tables b
  (append (ranges.drop n) kept, b)

end SetTables

def tablesForwards (s : CodeSet) (m : Machine) : Machine :=
  let target := m.states
  let (tables, b) := s.byteRanges.foldl
    (fun (tables, b) ranges => SetTables.addText target ranges tables b)
    ([⟨[], none⟩], ⟨m.addStates 1, ∅⟩)
  let (_, b) := SetTables.finish target tables b
  b.machine

/-- The chain of states for the bytes of one text, each leading to the one before it. States that
are alike are shared as long as they are remembered, as tables are. -/
def chainBackwards (ranges : List ByteRange) (number : Nat)
    (remembered : Std.HashMap Nat ((Nat × ByteRange) × Nat)) (m : Machine) :
    Std.HashMap Nat ((Nat × ByteRange) × Nat) × Machine :=
  match ranges with
  | [] => (remembered, m)
  | r :: rest =>
    let key := (number, r)
    let place := (hashOf [number, r.first.toNat, r.last.toNat] % 1000).toNat
    match remembered[place]?.filter fun (known, _) => known = key with
    | some (_, next) => chainBackwards rest next remembered m
    | none =>
      let remembered := remembered.insert place (key, m.states)
      chainBackwards rest m.states remembered (m.addStates 1)

/-- The states of a set for reading backwards, in which texts share their last bytes: a branching
state, the state after the set, and a chain for each text. -/
def chainsBackwards (s : CodeSet) (m : Machine) : Machine :=
  let target := m.states + 1
  (s.byteRanges.foldl
    (fun (remembered, m) ranges =>
      let (remembered, m) := chainBackwards ranges target remembered m
      (remembered, m.addBranches 1))
    (∅, m.addStates 2)).2

def setPart (d : Direction) (s : CodeSet) (m : Machine) : Part :=
  ⟨if s.isAscii then (m.addStates 1).addTable s.spans.size
    else match d with
      | .forwards => tablesForwards s m
      | .backwards => chainsBackwards s m, false⟩

/-- The words up to each place where one of them ends; words that end before any goes on count as
one. -/
def runsOfWords (words : List (List UInt8)) : List (List (List UInt8)) :=
  match words with
  | [] :: rest => [] :: (rest.dropWhile List.isEmpty).splitOn []
  | _ => words.splitOn []

def after (byte : UInt8) (words : List (List UInt8)) : List (List UInt8) :=
  words.filterMap fun w => if w.head? = some byte then some w.tail else none

/-- A choice between words, which share their first bytes: a state for each run of words, and a
branching state that leads to those and to the end, where words end. -/
def wordStates : Nat → List (List UInt8) → Machine → Machine
  | 0, _, m => m
  | fuel + 1, words, m =>
    if words.all List.isEmpty then m
    else
      let runs := runsOfWords words
      let heads := runs.map fun run => (run.filterMap List.head?).eraseDups
      let below := (runs.zip heads).foldl (fun m (run, heads) =>
        heads.foldl (fun m byte => wordStates fuel (after byte run) m) m) m
      let tables := (heads.filter fun bytes => !bytes.isEmpty)
      let m := tables.foldl (fun m bytes =>
        if bytes.length = 1 then m.addStates 1 else m.addTable bytes.length) below
      (m.addStates 1).addBranches (tables.length + (runs.length - 1))

def inOrder {α : Type} (d : Direction) (xs : List α) : List α :=
  match d with
  | .forwards => xs
  | .backwards => xs.reverse

def utf8 (text : List Char) : List UInt8 := text.flatMap String.utf8EncodeChar

def wordsPart (d : Direction) (texts : List (List Char)) (m : Machine) : Part :=
  let words := texts.map fun text => inOrder d (utf8 text)
  let longest := words.foldl (fun n w => max n w.length) 0
  ⟨wordStates (longest + 1) words (m.addStates 1), false⟩

def literals? : List Regex → Option (List (List Char))
  | [] => some []
  | .literal text :: rest => (literals? rest).map (text :: ·)
  | _ => none

def copies (build : Machine → Part) : Nat → Part → Part
  | 0, p => p
  | n + 1, p => if p.machine.isOver then p else copies build n (build p.continued)

def exactly (build : Machine → Part) (n : Nat) (m : Machine) : Part :=
  match n with
  | 0 => ⟨m.addStates 1, false⟩
  | n + 1 => copies build n (build m)

def optionalCopies (build : Machine → Part) : Nat → Part → Part
  | 0, p => p
  | n + 1, p =>
    if p.machine.isOver then p
    else optionalCopies build n (build ((p.continued.addStates 1).addBranches 2))

/-- Repetition of what `build` adds to a machine; `isVoid` if that may match the empty text. -/
def timesPart (build : Machine → Part) (isVoid : Bool) (min : Nat) (max : Option Nat)
    (m : Machine) : Part :=
  match max with
  | some max =>
    if min = 0 ∧ max = 1 then
      ⟨((build (m.addStates 1)).continued.addStates 1).addBranches 2, false⟩
    else
      let first := exactly build min m
      if min = max then first
      else
        let first := { first with machine := first.machine.addStates 1 }
        ⟨(optionalCopies build (max - min) first).continued, false⟩
  | none =>
    if min = 0 then
      if isVoid then ⟨((build m).continued.addStates 3).addBranches 4, false⟩
      else ⟨(build (m.addStates 1)).continued.addBranches 1, true⟩
    else ⟨((exactly build min m).continued.addStates 1).addBranches 1, true⟩

mutual

def Regex.part (d : Direction) : Regex → Machine → Part
  | .empty, m | .look _, m => ⟨m.addStates 1, false⟩
  | .literal text, m => ⟨m.addStates (utf8 text).length, false⟩
  | .set _ s, m => setPart d s m
  | .times r min max _, m =>
    timesPart (Regex.part d r) ((r.leastLength?.getD 0) == 0) min max m
  | .group _ r, m =>
    match d with
    | .forwards => ⟨(Regex.part d r (m.addStates 1)).continued.addStates 1, false⟩
    | .backwards => Regex.part d r m
  | .seq rs, m =>
    match d with
    | .forwards => Regex.partInTurn d rs m
    | .backwards => Regex.partBackwards d rs m
  | .alt rs, m =>
    match literals? rs with
    | some texts => wordsPart d texts m
    | none => ⟨Regex.partByAny d 0 rs m, false⟩

def Regex.partInTurn (d : Direction) : List Regex → Machine → Part
  | [], m => ⟨m.addStates 1, false⟩
  | [r], m => Regex.part d r m
  | r :: rs, m => Regex.partInTurn d rs (Regex.part d r m).continued

def Regex.partBackwards (d : Direction) : List Regex → Machine → Part
  | [], m => ⟨m.addStates 1, false⟩
  | [r], m => Regex.part d r m
  | r :: rs, m => Regex.part d r (Regex.partBackwards d rs m).continued

/-- Each alternative is a branch. The state that they branch from and the one that they join in come
after the second. -/
def Regex.partByAny (d : Direction) (done : Nat) : List Regex → Machine → Machine
  | [], m => m
  | r :: rs, m =>
    let m := (Regex.part d r m).continued.addBranches 1
    Regex.partByAny d (done + 1) rs (if done = 1 then m.addStates 2 else m)

end

/-- The machine for an expression. A match that need not begin where the search does begins after
any bytes; forwards, the match as a whole is kept as groups are. -/
def Regex.machine (d : Direction) (r : Regex) : Machine :=
  let anchored := match d with
    | .forwards => r.beginsWith .startOfText
    | .backwards => r.endsWith .endOfText
  let start : Machine := if anchored then ⟨1, 0⟩ else (Machine.mk 2 0).addTable 1
  let whole := (Regex.part d (.group 0 r) start).continued.addStates 1
  if anchored then whole else whole.addBranches 2

def Regex.sized (r : Regex) : Except Fault Regex :=
  if (r.machine .forwards).isOver || (r.machine .backwards).isOver then
    .error (.tooLarge Machine.limit)
  else .ok r

end Walkthrough.Pattern
