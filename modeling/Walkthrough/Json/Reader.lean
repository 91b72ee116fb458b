import Walkthrough.Json.Outline

/-!
Readers turn an outline into a typed value. They walk it in the order of the text and stop at the
first fault, be it one of form or of shape; what a reader ignores need only be well formed.
-/
namespace Walkthrough.Json

/-- Levels of nesting that are left in a text. A value in memory has no such limit. -/
abbrev Levels := Option Nat

abbrev Reader (α : Type) := Levels → Outline → Except ReadFault α

def nestingLimit : Nat := 128

namespace Reader

def malformed {α : Type} (fault : TextFault) : Except ReadFault α := .error (.malformed fault)

def misshapen {α : Type} (fault : ShapeFault) : Except ReadFault α := .error (.misshapen fault)

def sound {α : Type} : Except TextFault α → Except ReadFault α
  | .ok a => .ok a
  | .error fault => .error (.malformed fault)

def closing : Option TextFault → Except ReadFault Unit
  | none => .ok ()
  | some fault => malformed fault

def enter : Levels → Except ReadFault Levels
  | none => .ok none
  | some levels => if levels ≤ 1 then malformed .tooDeep else .ok (some (levels - 1))

/-- The fault of a value that is there in place of the expected one. Scalars are read to their end
first, so that their own faults come before this one. -/
def refuse {α : Type} (expected : String) : Outline → Except ReadFault α
  | .null => misshapen (.wrongType .null expected)
  | .bool b => misshapen (.wrongType (.bool b) expected)
  | .number n => do
    let found ← sound n
    misshapen (.wrongType (.number found) expected)
  | .string q => do
    let found ← sound q.text
    misshapen (.wrongType (.string found) expected)
  | .list _ _ => misshapen (.wrongType .sequence expected)
  | .record _ _ => misshapen (.wrongType .map expected)
  | .broken fault => malformed fault

def text (expected : String) : Reader String := fun _ o =>
  match o with
  | .string q => sound q.text
  | other => refuse expected other

def string : Reader String := text "a string"

def bool : Reader Bool := fun _ o =>
  match o with
  | .bool b => .ok b
  | other => refuse "a boolean" other

def nat (expected : String) : Reader Nat := fun _ o =>
  match o with
  | .number n => do
    match ← sound n with
    | .whole value fits =>
      if 0 ≤ value then .ok value.toNat
      else misshapen (.wrongValue (.number (.whole value fits)) expected)
    | other => misshapen (.wrongType (.number other) expected)
  | other => refuse expected other

def nat32 : Reader Nat := fun levels o => do
  let value ← nat "u32" levels o
  if fits : FitsWord value then
    if value < 4294967296 then .ok value
    else misshapen (.wrongValue (.number (.whole value fits)) "u32")
  else .ok value

def signed : Reader Int := fun _ o =>
  match o with
  | .number n => do
    match ← sound n with
    | .whole value fits =>
      if value ≤ 9223372036854775807 then .ok value
      else misshapen (.wrongValue (.number (.whole value fits)) "i64")
    | other => misshapen (.wrongType (.number other) "i64")
  | other => refuse "i64" other

def real : Reader Binary64 := fun _ o =>
  match o with
  | .number n => do
    let found ← sound n
    return found.toBinary64
  | other => refuse "f64" other

def optional {α : Type} (read : Reader α) : Reader (Option α) := fun levels o =>
  match o with
  | .null => .ok none
  | other => (read levels other).map some

def items {α : Type} (read : Reader α) (levels : Levels) (ending : Option TextFault) :
    List Outline → Except ReadFault (List α)
  | [] => do
    closing ending
    return []
  | item :: rest => do
    let first ← read levels item
    let others ← items read levels ending rest
    return first :: others

def list {α : Type} (read : Reader α) : Reader (List α) := fun levels o =>
  match o with
  | .list content ending => do
    let inner ← enter levels
    items read inner ending content
  | other => refuse "a sequence" other

mutual

def value (levels : Levels) : Outline → Except ReadFault Json
  | .null => .ok .null
  | .bool b => .ok (.bool b)
  | .number n => (sound n).map .number
  | .string q => (sound q.text).map .string
  | .list content ending => do
    let inner ← enter levels
    let found ← valueItems inner ending content
    return .array found
  | .record members ending => do
    let inner ← enter levels
    let found ← valueMembers inner ending members
    return Json.objectOf found
  | .broken fault => malformed fault

def valueItems (levels : Levels) (ending : Option TextFault) :
    List Outline → Except ReadFault (List Json)
  | [] => do
    closing ending
    return []
  | item :: rest => do
    let first ← value levels item
    let others ← valueItems levels ending rest
    return first :: others

def valueMembers (levels : Levels) (ending : Option TextFault) :
    List (Quotation × Outline) → Except ReadFault (List (String × Json))
  | [] => do
    closing ending
    return []
  | (name, item) :: rest => do
    let name ← sound name.text
    let first ← value levels item
    let others ← valueMembers levels ending rest
    return (name, first) :: others

end

mutual

/-- What is ignored must be well formed; the size of its numbers, the pairing of its code units and
its nesting do not matter. A number that the end of the text cuts off is no number. -/
def skip : Outline → Except ReadFault Unit
  | .null | .bool _ | .number _ => .ok ()
  | .string q => closing q.ending
  | .list content ending => do
    skipItems content
    closing (ending.map TextFault.inPassedList)
  | .record members ending => do
    skipMembers members
    closing (ending.map TextFault.inPassedObject)
  | .broken .endInNumber => malformed .badNumber
  | .broken fault => malformed fault

def skipItems : List Outline → Except ReadFault Unit
  | [] => .ok ()
  | item :: rest => do
    skip item
    skipItems rest

def skipMembers : List (Quotation × Outline) → Except ReadFault Unit
  | [] => .ok ()
  | (name, item) :: rest => do
    closing name.ending
    skip item
    skipMembers rest

end

def chooseVariant {α : Type} (known : List (String × α)) (name : String) : Except ReadFault α :=
  match known.lookup name with
  | some a => .ok a
  | none => misshapen (.unknownVariant name (known.map (·.1)))

/-- One of some names: a string, or an object with the name as its only member and null in it. In a
text any other value is a fault of form. -/
def variant {α : Type} (known : List (String × α)) : Reader α := fun levels o =>
  match o with
  | .string q => do
    let name ← sound q.text
    chooseVariant known name
  | .record members ending =>
    if levels.isNone && members.length != 1 then
      misshapen (.wrongValue .map "map with a single key")
    else do
      let _ ← enter levels
      match members with
      | [] =>
        closing ending
        malformed .expectedValue
      | (name, content) :: rest =>
        if name.ending = some .keyNotString then refuse "variant identifier" content
        let name ← sound name.text
        let found ← chooseVariant known name
        match content with
        | .null =>
          match rest, ending with
          | [], none => return found
          | [], some .endInObject => malformed .endInObject
          | _, _ => malformed .expectedValue
        | other => refuse "unit" other
  | .broken fault => malformed fault
  | other => if levels.isNone then refuse "string or map" other else malformed .expectedValue

def members : Reader (List (String × Json)) := fun levels o =>
  match o with
  | .record content ending => do
    let inner ← enter levels
    let found ← valueMembers inner ending content
    return Json.sortMembers found
  | other => refuse "a map" other

def run {α : Type} (read : Reader α) (text : String) : Except ReadFault α := do
  let (o, rest) := outlineOf text
  let a ← read (some nestingLimit) o
  match rest with
  | some rest => if (skipSpace rest).isEmpty then return a else malformed .trailingCharacters
  | none => return a

def ofValue {α : Type} (read : Reader α) (j : Json) : Except ReadFault α :=
  read none (outlineOfValue j)

end Reader

def parse (text : String) : Except ReadFault Json := Reader.run Reader.value text

end Walkthrough.Json
