import Walkthrough.Pattern.Escape

/-!
Character classes in brackets: items, ranges, named classes and classes within classes, joined by
set operations. Where Unicode is switched off a class is one of bytes, all of which must be ASCII.
-/
namespace Walkthrough.Pattern

open Unicode (CodeSet)

def heightLimit : Nat := 250

def asciiClasses : List (String × CodeSet) := [
  ("alnum", .ofTable ["30-39 41-5A 61-7A"]),
  ("alpha", .ofTable ["41-5A 61-7A"]),
  ("ascii", .range 0 0x7F),
  ("blank", .ofTable ["9 20"]),
  ("cntrl", .ofTable ["0-1F 7F"]),
  ("digit", .range 0x30 0x39),
  ("graph", .range 0x21 0x7E),
  ("lower", .range 0x61 0x7A),
  ("print", .range 0x20 0x7E),
  ("punct", .ofTable ["21-2F 3A-40 5B-60 7B-7E"]),
  ("space", asciiBlank),
  ("upper", .range 0x41 0x5A),
  ("word", asciiWord),
  ("xdigit", .ofTable ["30-39 41-46 61-66"])]

def takeAsciiClass (flags : Flags) (cs : List Char) :
    Except Fault (Option (CodeSet × List Char)) :=
  match cs with
  | '[' :: ':' :: rest =>
    let (negated, body) := match rest with
      | '^' :: more => (true, more)
      | more => (false, more)
    let name := body.takeWhile (· != ':')
    match body.drop name.length, asciiClasses.lookup (String.ofList name) with
    | ':' :: ']' :: more, some s =>
      if negated && !flags.unicode then .error .notUnicode
      else .ok (some (negatedIf negated (foldedIf flags s), more))
    | _, _ => .ok none
  | _ => .ok none

def takeClassItem (flags : Flags) : List Char → Except Fault (Escape × List Char)
  | [] => .error .unclosedClass
  | '\\' :: rest => takeEscape flags rest
  | c :: rest => .ok (.char c false, rest)

def memberOf (flags : Flags) (c : Char) : Except Fault Char :=
  if !flags.unicode && 128 ≤ c.toNat then .error .notUnicode else .ok c

def Escape.asSet (flags : Flags) : Escape → Except Fault CodeSet
  | .char c _ => (memberOf flags c).map CodeSet.single
  | .set s => .ok s
  | .look _ => .error .badClassItem

def Escape.asChar (flags : Flags) : Escape → Except Fault Char
  | .char c _ => memberOf flags c
  | _ => .error .badClassRange

/-- What is seen ahead of a hyphen: blanks are passed over, and so is the mark of a comment, though
not its text. -/
def seenAhead (flags : Flags) (cs : List Char) : Option Char :=
  if !flags.ignoreSpace then cs.head?
  else match Text.trimStart cs with
    | '#' :: rest => (Text.trimStart rest).head?
    | rest => rest.head?

/-- An item or a range. A hyphen ahead of the closing bracket or of another hyphen makes no
range. -/
def takeClassRange (flags : Flags) (cs : List Char) : Except Fault (CodeSet × List Char) := do
  let (first, rest) ← takeClassItem flags cs
  match skipIgnored flags rest with
  | [] => throw .unclosedClass
  | '-' :: more =>
    let ahead := seenAhead flags more
    if ahead = some ']' ∨ ahead = some '-' then
      let s ← first.asSet flags
      return (s, '-' :: more)
    else match skipIgnored flags more with
    | [] => throw .unclosedClass
    | next =>
      let (second, rest) ← takeClassItem flags next
      let low ← first.asChar flags
      let high ← second.asChar flags
      if low ≤ high then return (.range low.toNat high.toNat, rest) else throw .badClassRange
  | rest =>
    let s ← first.asSet flags
    return (s, rest)

structure ClassItems where
  set : CodeSet
  count : Nat
  tallest : Nat

namespace ClassItems

def none : ClassItems := ⟨.empty, 0, 0⟩

def add (items : ClassItems) (s : CodeSet) (height : Nat) : ClassItems :=
  ⟨items.set.union s, items.count + 1, max items.tallest height⟩

def height (items : ClassItems) : Nat :=
  if items.count ≤ 1 then items.tallest else items.tallest + 1

end ClassItems

inductive ClassOp where
  | intersection
  | difference
  | symmetric

def ClassOp.apply : ClassOp → CodeSet → CodeSet → CodeSet
  | .intersection => .intersection
  | .difference => .difference
  | .symmetric => .symmetricDifference

/-- An operator that waits for its right side, with its left side and that one's height. -/
structure Waiting where
  op : ClassOp
  left : CodeSet
  height : Nat

def combine (flags : Flags) (items : ClassItems) : Option Waiting → CodeSet × Nat
  | none => (items.set, items.height)
  | some w =>
    (w.op.apply (foldedIf flags w.left) (foldedIf flags items.set),
      max w.height items.height + 1)

def takeHyphens (flags : Flags) : Nat → List Char → ClassItems × List Char
  | 0, cs => (.none, cs)
  | fuel + 1, cs =>
    match skipIgnored flags cs with
    | '-' :: rest =>
      let (items, more) := takeHyphens flags fuel rest
      (items.add (.single '-') 0, more)
    | other => (.none, other)

mutual

def takeClass (flags : Flags) : Nat → List Char → Except Fault (CodeSet × Nat × List Char)
  | 0, _ => .error .unclosedClass
  | fuel + 1, cs => do
    let (negated, cs) := match skipIgnored flags cs with
      | '^' :: rest => (true, skipIgnored flags rest)
      | rest => (false, rest)
    if negated ∧ !flags.unicode then throw .notUnicode
    let (hyphens, rest) := takeHyphens flags cs.length cs
    let (start, rest) := match cs, rest with
      | ']' :: _, ']' :: more => (hyphens.add (.single ']') 0, more)
      | _, other => (hyphens, other)
    let (s, height, rest) ← takeClassBody flags fuel start none rest
    return (negatedIf negated (foldedIf flags s), height + 1, rest)

def takeClassBody (flags : Flags) : Nat → ClassItems → Option Waiting → List Char →
    Except Fault (CodeSet × Nat × List Char)
  | 0, _, _, _ => .error .unclosedClass
  | fuel + 1, items, waiting, cs =>
    let operate (op : ClassOp) (rest : List Char) :=
      let (left, height) := combine flags items waiting
      takeClassBody flags fuel .none (some ⟨op, left, height⟩) rest
    match skipIgnored flags cs with
    | [] => .error .unclosedClass
    | '[' :: rest => do
      match ← takeAsciiClass flags ('[' :: rest) with
      | some (s, more) => takeClassBody flags fuel (items.add s 0) waiting more
      | none =>
        let (s, height, more) ← takeClass flags fuel rest
        takeClassBody flags fuel (items.add s height) waiting more
    | ']' :: rest =>
      let (s, height) := combine flags items waiting
      .ok (s, height, rest)
    | '&' :: '&' :: rest => operate .intersection rest
    | '-' :: '-' :: rest => operate .difference rest
    | '~' :: '~' :: rest => operate .symmetric rest
    | other => do
      let (s, more) ← takeClassRange flags other
      takeClassBody flags fuel (items.add s 0) waiting more

end

end Walkthrough.Pattern
