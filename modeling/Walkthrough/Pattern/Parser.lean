import Walkthrough.Pattern.CharClass
import Walkthrough.Pattern.Machine

/-!
The written form of patterns. Flags in force are handed on from left to right and end with their
group; the names of groups must differ. A pattern must not nest too deep, and the machine that
searches for it must not be too large.
-/
namespace Walkthrough.Pattern

open Unicode (CodeSet)

structure Piece where
  regex : Regex
  height : Nat

def takeCount (flags : Flags) (cs : List Char) : Except Fault (Option Nat × List Char) :=
  let rec digits : Nat → List Char → List Char × List Char
    | 0, cs => ([], cs)
    | fuel + 1, cs =>
      match cs with
      | c :: rest =>
        if c.isDigit then
          let (more, after) := digits fuel (skipIgnored flags rest)
          (c :: more, after)
        else ([], cs)
      | [] => ([], [])
  let (found, rest) := digits cs.length (Text.trimStart cs)
  let rest := skipIgnored flags (Text.trimStart rest)
  if found.isEmpty then .ok (none, rest)
  else
    let n := found.foldl (fun n c => 10 * n + (c.toNat - '0'.toNat)) 0
    if n ≤ 4294967295 then .ok (some n, rest) else .error .badCount

def someCount : Option Nat → Except Fault Nat
  | some n => .ok n
  | none => .error .badCount

def takeBounds (flags : Flags) (cs : List Char) :
    Except Fault (Nat × Option Nat × List Char) := do
  let cs := skipIgnored flags cs
  if cs.isEmpty then throw .unclosedCount
  let (low, rest) ← takeCount flags cs
  match rest with
  | [] => throw .unclosedCount
  | ',' :: more =>
    match skipIgnored flags more with
    | [] => throw .unclosedCount
    | '\x7d' :: after =>
      let low ← someCount low
      return (low, none, after)
    | more =>
      let low ← someCount low
      let (high, after) ← takeCount flags more
      let high ← someCount high
      match after with
      | '\x7d' :: after => if low ≤ high then return (low, some high, after) else throw .badCount
      | _ => throw .unclosedCount
  | '\x7d' :: after =>
    let low ← someCount low
    return (low, some low, after)
  | _ =>
    let _ ← someCount low
    throw .unclosedCount

/-- The mark that makes a repetition lazy changes no match, only which is found first. -/
def takeLazy (flags : Flags) : List Char → Bool × List Char
  | '?' :: rest => (!flags.swapLazy, rest)
  | rest => (flags.swapLazy, rest)

def isNameStart (c : Char) : Bool := c == '_' || Unicode.alphabetic.contains c

def isNameChar (c : Char) : Bool :=
  isNameStart c || c == '.' || c == '[' || c == ']' || Unicode.numbers.contains c

def takeGroupName (cs : List Char) : Except Fault (String × List Char) :=
  let name := cs.takeWhile (· != '>')
  match name, cs.drop name.length with
  | c :: more, '>' :: rest =>
    if isNameStart c && more.all isNameChar then .ok (String.ofList name, rest)
    else .error .badGroupName
  | _, _ => .error .badGroupName

def Flags.set (flags : Flags) (on : Bool) (c : Char) : Option Flags :=
  if c = 'i' then some { flags with caseless := on }
  else if c = 'm' then some { flags with manyLines := on }
  else if c = 's' then some { flags with dotAll := on }
  else if c = 'R' then some { flags with anyLineEnd := on }
  else if c = 'u' then some { flags with unicode := on }
  else if c = 'x' then some { flags with ignoreSpace := on }
  else if c = 'U' then some { flags with swapLazy := on }
  else none

def takeFlags (flags : Flags) (seen : List Char) (on : Bool) :
    List Char → Except Fault (Flags × List Char)
  | [] => .error .badFlags
  | c :: rest =>
    if c = ':' ∨ c = ')' then
      if seen.head? = some '-' then .error .badFlags else .ok (flags, c :: rest)
    else if seen.contains c then .error .badFlags
    else if c = '-' then takeFlags flags ('-' :: seen) false rest
    else match flags.set on c with
      | some flags => takeFlags flags (c :: seen) on rest
      | none => .error .badFlags

inductive GroupHead where
  | flagsOnly (flags : Flags)
  /-- A group that keeps nothing. -/
  | plain (flags : Flags)
  /-- A group that keeps what it matched, under a name if it has one. -/
  | keeping (name : Option String)

def takeGroupHead (flags : Flags) (cs : List Char) : Except Fault (GroupHead × List Char) :=
  match skipIgnored flags cs with
  | '?' :: '=' :: _ | '?' :: '!' :: _ | '?' :: '<' :: '=' :: _ | '?' :: '<' :: '!' :: _ =>
    .error .lookAround
  | '?' :: 'P' :: '<' :: rest | '?' :: '<' :: rest =>
    (takeGroupName rest).map fun (name, rest) => (.keeping (some name), rest)
  | '?' :: rest => do
    if rest.isEmpty then throw .unclosedGroup
    let (inner, after) ← takeFlags flags [] true rest
    match after with
    | ')' :: more =>
      if more.length + 1 = rest.length then throw .nothingToRepeat
      return (.flagsOnly inner, more)
    | more => return (.plain inner, more.drop 1)
  | rest => .ok (.keeping none, rest)

def dotSet (flags : Flags) : Except Fault CodeSet :=
  if !flags.unicode then .error .notUnicode
  else if flags.dotAll then .ok .all
  else if flags.anyLineEnd then .ok (CodeSet.ofTable ["A D"]).complement
  else .ok (CodeSet.single '\n').complement

def startLook (flags : Flags) : Look :=
  if !flags.manyLines then .startOfText
  else if flags.anyLineEnd then .startOfAnyLine else .startOfLine

def endLook (flags : Flags) : Look :=
  if !flags.manyLines then .endOfText
  else if flags.anyLineEnd then .endOfAnyLine else .endOfLine

def charRegex (flags : Flags) (c : Char) : Regex :=
  if flags.caseless then .ofSet (!flags.unicode) (foldedIf flags (.single c)) else .literal [c]

def takePrimitive (flags : Flags) : List Char → Except Fault (Regex × List Char)
  | [] => .error .unfinishedEscape
  | '\\' :: rest => do
    let (e, rest) ← takeEscape flags rest
    match e with
    | .char c isByte =>
      if isByte && !flags.unicode && 128 ≤ c.toNat then throw .notUnicode
      return (charRegex flags c, rest)
    | .set s => return (.ofSet (!flags.unicode) s, rest)
    | .look l => return (.look l, rest)
  | '.' :: rest => (dotSet flags).map fun s => (.ofSet false s, rest)
  | '^' :: rest => .ok (.look (startLook flags), rest)
  | '$' :: rest => .ok (.look (endLook flags), rest)
  | c :: rest => .ok (charRegex flags c, rest)

/-- Items of a sequence, last first. Flags that stand alone are items too, but match nothing and
cannot be repeated. -/
abbrev Items := List (Option Piece)

def tallest (pieces : List Piece) : Nat := pieces.foldl (fun h p => max h p.height) 0

def sequence (items : Items) : Piece :=
  match items.reverse.map (·.getD ⟨.empty, 0⟩) with
  | [] => ⟨.empty, 0⟩
  | [piece] => piece
  | pieces => ⟨.concatenation (pieces.map Piece.regex), 1 + tallest pieces⟩

def choice : List Piece → Piece
  | [] => ⟨.empty, 0⟩
  | [piece] => piece
  | pieces => ⟨.alternation (pieces.map Piece.regex), 1 + tallest pieces⟩

def repeatLast (low : Nat) (high : Option Nat) (isLazy : Bool) : Items → Except Fault Items
  | some piece :: rest =>
    .ok (some ⟨piece.regex.repeated low high isLazy, piece.height + 1⟩ :: rest)
  | _ => .error .nothingToRepeat

structure Groups where
  count : Nat := 0
  names : List String := []

def Groups.add (groups : Groups) (name : Option String) : Except Fault Groups :=
  if name.any groups.names.contains then .error .repeatedGroupName
  else .ok ⟨groups.count + 1, name.toList ++ groups.names⟩

/-- Reads alternatives up to the end of their group, and returns the groups seen so far and what
follows. `done` holds the alternatives that are complete, last first. -/
def takeAlternatives : Nat → Flags → Groups → List Piece → Items → List Char →
    Except Fault (Piece × Groups × List Char)
  | 0, _, _, _, _, _ => .error .tooDeep
  | fuel + 1, flags, groups, done, items, cs =>
    let repeatedBy (low : Nat) (high : Option Nat) (rest : List Char) := do
      let (isLazy, rest) := takeLazy flags rest
      let items ← repeatLast low high isLazy items
      takeAlternatives fuel flags groups done items rest
    match skipIgnored flags cs with
    | [] => .ok (choice (sequence items :: done).reverse, groups, [])
    | c :: rest =>
      if c = ')' then .ok (choice (sequence items :: done).reverse, groups, c :: rest)
      else if c = '|' then takeAlternatives fuel flags groups (sequence items :: done) [] rest
      else if c = '(' then do
        let (head, rest) ← takeGroupHead flags rest
        match head with
        | .flagsOnly flags => takeAlternatives fuel flags groups done (none :: items) rest
        | .plain inner =>
          let (piece, groups, rest) ← takeAlternatives fuel inner groups [] [] rest
          let ')' :: rest := rest | throw .unclosedGroup
          takeAlternatives fuel flags groups done
            (some ⟨piece.regex, piece.height + 1⟩ :: items) rest
        | .keeping name =>
          let groups ← groups.add name
          let number := groups.count
          let (piece, groups, rest) ← takeAlternatives fuel flags groups [] [] rest
          let ')' :: rest := rest | throw .unclosedGroup
          takeAlternatives fuel flags groups done
            (some ⟨.group number piece.regex, piece.height + 1⟩ :: items) rest
      else if c = '[' then do
        let (s, height, rest) ← takeClass flags (2 * rest.length + 2) rest
        takeAlternatives fuel flags groups done
          (some ⟨.ofSet (!flags.unicode) s, height⟩ :: items) rest
      else if c = '?' then repeatedBy 0 (some 1) rest
      else if c = '*' then repeatedBy 0 none rest
      else if c = '+' then repeatedBy 1 none rest
      else if c = '\x7b' then do
        let _ ← repeatLast 0 none false items
        let (low, high, rest) ← takeBounds flags rest
        repeatedBy low high (skipIgnored flags rest)
      else do
        let (r, rest) ← takePrimitive flags (c :: rest)
        takeAlternatives fuel flags groups done (some ⟨r, 0⟩ :: items) rest

def parse (pattern : String) : Except Fault Regex := do
  let cs := pattern.toList
  let (piece, _, rest) ← takeAlternatives (2 * cs.length + 2) {} {} [] [] cs
  if !rest.isEmpty then throw .unopenedGroup
  if heightLimit < piece.height then throw .tooDeep
  piece.regex.sized

end Walkthrough.Pattern
