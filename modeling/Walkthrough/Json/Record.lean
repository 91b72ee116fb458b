import Walkthrough.Json.Reader

/-!
Records are described once, field by field, for reading and for writing. A record is read from an
object, in which no field may stand twice and unknown members are ignored unless the record is
closed, or from an array that holds the fields in order; it is written as an object with its fields
in order.
-/
namespace Walkthrough.Json

inductive Presence where
  | required
  /-- May be left out of an object, but not of an array. -/
  | namedOnly
  | optional
deriving DecidableEq, Repr

structure RecordField (α : Type) where
  name : String
  presence : Presence
  /-- Reads the field's value and says how it is put into the record. -/
  read : Levels → Outline → Except ReadFault (α → α)
  /-- The field's value, unless it is left out. -/
  write : α → Option Json

structure Schema (α : Type) where
  label : String
  /-- The record whose fields are all left out. -/
  blank : α
  fields : List (RecordField α)
  /-- Whether unknown members are refused. -/
  closed : Bool := false
  /-- Why a record is refused although all its fields were read. -/
  refusal? : α → Option ShapeFault := fun _ => none

namespace RecordField

variable {α β : Type}

def required (name : String) (read : Reader β) (write : β → Json) (get : α → β)
    (set : β → α → α) : RecordField α where
  name := name
  presence := .required
  read levels o := (read levels o).map set
  write a := some (write (get a))

def withDefault (name : String) (read : Reader β) (write : β → Json) (get : α → β)
    (set : β → α → α) : RecordField α :=
  { required name read write get set with presence := .optional }

def optional (name : String) (read : Reader β) (write : β → Json) (get : α → Option β)
    (set : Option β → α → α) : RecordField α where
  name := name
  presence := .optional
  read levels o := (Reader.optional read levels o).map set
  write a := (get a).map write

def listOrNothing (name : String) (read : Reader β) (write : β → Json) (get : α → List β)
    (set : List β → α → α) : RecordField α where
  name := name
  presence := .optional
  read levels o := (Reader.list read levels o).map set
  write a := if (get a).isEmpty then none else some (.array ((get a).map write))

end RecordField

namespace Schema

variable {α : Type}

def field? (s : Schema α) (name : String) : Option (RecordField α) :=
  s.fields.find? (·.name == name)

/-- Reads members in order. `seen` holds the names of the fields read so far. -/
def readMembers (s : Schema α) (levels : Levels) (ending : Option TextFault) (seen : List String)
    (a : α) : List (Quotation × Outline) → Except ReadFault (List String × α)
  | [] => do
    Reader.closing ending
    return (seen, a)
  | (name, item) :: rest => do
    let name ← Reader.sound name.text
    match s.field? name with
    | none =>
      if s.closed then Reader.misshapen (.unknownField name (s.fields.map (·.name)))
      else
        Reader.skip item
        s.readMembers levels ending seen a rest
    | some field =>
      if seen.contains name then Reader.misshapen (.duplicateField name)
      else
        let put ← field.read levels item
        s.readMembers levels ending (name :: seen) (put a) rest

def missing? (s : Schema α) (seen : List String) : Option String :=
  (s.fields.find? fun f => f.presence == .required && !seen.contains f.name).map (·.name)

def expected (s : Schema α) : String :=
  let count := s.fields.length
  let plural := if count = 1 then "" else "s"
  if s.closed then s!"struct {s.label}" else s!"struct {s.label} with {count} element{plural}"

def readEnd (levels : Levels) (ending : Option TextFault) (index : Nat) :
    List Outline → Except ReadFault Unit
  | extra :: rest =>
    if levels.isNone then
      Reader.misshapen (.wrongLength (index + (extra :: rest).length) "fewer elements in array")
    else Reader.malformed .trailingCharacters
  | [] => match ending with
    | some .expectedListCommaOrEnd => Reader.malformed .trailingCharacters
    | other => Reader.closing other

def accept (s : Schema α) (a : α) : Except ReadFault α :=
  match s.refusal? a with
  | none => .ok a
  | some fault => Reader.misshapen fault

def readItems (s : Schema α) (levels : Levels) (ending : Option TextFault) (index : Nat) (a : α) :
    List (RecordField α) → List Outline → Except ReadFault α
  | [], rest => do
    let a ← s.accept a
    readEnd levels ending index rest
    return a
  | field :: fields, item :: rest => do
    let put ← field.read levels item
    s.readItems levels ending (index + 1) (put a) fields rest
  | field :: fields, [] => do
    Reader.closing ending
    if field.presence = .optional then s.readItems levels ending (index + 1) a fields []
    else Reader.misshapen (.wrongLength index s.expected)

def read (s : Schema α) : Reader α := fun levels o =>
  match o with
  | .record members ending => do
    let inner ← Reader.enter levels
    let (seen, a) ← s.readMembers inner ending [] s.blank members
    match s.missing? seen with
    | some name => Reader.misshapen (.missingField name)
    | none => s.accept a
  | .list content ending => do
    let inner ← Reader.enter levels
    s.readItems inner ending 0 s.blank s.fields content
  | other => Reader.refuse s!"struct {s.label}" other

def write (s : Schema α) (a : α) : Json :=
  .object (s.fields.filterMap fun f => (f.write a).map fun j => (f.name, j))

end Schema

end Walkthrough.Json
