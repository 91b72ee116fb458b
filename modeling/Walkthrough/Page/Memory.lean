import Walkthrough.Play.World

/-!
A page in memory. Its elements are known by keys, several of them by the same one; it logs the
operations on it, and a failure can be arranged for those whose log line begins in a certain way.
-/
namespace Walkthrough

structure Element where
  key : String
  text : String := ""
  value : String := ""
  hidden : Bool := false
  attributes : List (String × String) := []
  styles : List (String × String) := []
  files : List Payload := []
deriving DecidableEq, Repr

structure MemoryPage where
  url : String := "about:blank"
  title : String := ""
  html : String := ""
  elements : List Element := []
  /-- Titles by path. -/
  titles : List (String × String) := []
  /-- Where a click on an element leads, by key. -/
  clickNavigation : List (String × String) := []
  /-- The keys of elements that a click removes. -/
  clickRemoves : List String := []
  evaluateResult : Json := .null
  /-- Beginnings of log lines and the failures that they bring about. -/
  failing : List (String × String) := []
  log : List String := []
  /-- The options of operations that had some. -/
  options : List (String × Json) := []
deriving BEq, Repr

namespace MemoryPage

def baseUrl : String := "http://app.local"

def matching (p : MemoryPage) (key : String) : List Element := p.elements.filter (·.key == key)

/-- The first element of a target's key, or the one with the target's index. -/
def find? (p : MemoryPage) (t : Target) : Option Element :=
  (p.matching t.locator.key)[t.nth.getD 0]?

def change (key : String) (f : Element → Element) : Nat → List Element → List Element
  | _, [] => []
  | index, e :: rest =>
    if e.key = key then
      match index with
      | 0 => f e :: rest
      | index + 1 => e :: change key f index rest
    else e :: change key f index rest

def dropAt (key : String) : Nat → List Element → List Element
  | _, [] => []
  | index, e :: rest =>
    if e.key = key then
      match index with
      | 0 => rest
      | index + 1 => e :: dropAt key index rest
    else e :: dropAt key index rest

def changeTarget (p : MemoryPage) (t : Target) (f : Element → Element) : MemoryPage :=
  { p with elements := change t.locator.key f (t.nth.getD 0) p.elements }

def navigate (p : MemoryPage) (path : String) : MemoryPage :=
  { p with
    url := if path.startsWith "http" then path else baseUrl ++ path
    title := (p.titles.lookup path).getD "" }

def noteOptions (p : MemoryPage) (operation : String) : Option Json → MemoryPage
  | some options => { p with options := p.options ++ [(operation, options)] }
  | none => p

def record (p : MemoryPage) (line : String) (effect : MemoryPage → MemoryPage) :
    Except PageFault Unit × MemoryPage :=
  let logged := { p with log := p.log ++ [line] }
  match p.failing.find? fun (start, _) => line.startsWith start with
  | some (_, message) => (.error (.automation message), logged)
  | none => (.ok (), effect logged)

def act (p : MemoryPage) (t : Target) (line : String) (effect : MemoryPage → MemoryPage) :
    Except PageFault Unit × MemoryPage :=
  match p.find? t with
  | none => (.error (.notFound t.display), p)
  | some _ => p.record line effect

def clicked (t : Target) (p : MemoryPage) : MemoryPage :=
  let key := t.locator.key
  let p := match p.clickNavigation.lookup key with
    | some path => p.navigate path
    | none => p
  if p.clickRemoves.contains key then
    { p with elements := dropAt key (t.nth.getD 0) p.elements }
  else p

def read {α : Type} (p : MemoryPage) (t : Target) (get : Element → α) :
    Except PageFault α × MemoryPage :=
  match p.find? t with
  | some e => (.ok (get e), p)
  | none => (.error (.notFound t.display), p)

def numberText (x : Binary64) : String := String.ofList x.plain

def serve (p : MemoryPage) : (c : Call) → c.Answer × MemoryPage
  | .goto url options =>
    p.record s!"goto {url}" fun p => (p.navigate url).noteOptions s!"goto {url}" options
  | .count t =>
    let total := (p.matching t.locator.key).length
    (.ok (match t.nth with
      | some n => if n < total then 1 else 0
      | none => total), p)
  | .fill t value options =>
    p.act t s!"fill {t.display} {value}" fun p =>
      (p.noteOptions s!"fill {t.display}" options).changeTarget t fun e => { e with value := value }
  | .type t text options =>
    p.act t s!"type {t.display} {text}" fun p =>
      (p.noteOptions s!"type {t.display}" options).changeTarget t fun e =>
        { e with value := e.value ++ text }
  | .click t options =>
    p.act t s!"click {t.display}" fun p => clicked t (p.noteOptions s!"click {t.display}" options)
  | .hover t options =>
    p.act t s!"hover {t.display}" fun p => p.noteOptions s!"hover {t.display}" options
  | .press t key options =>
    p.act t s!"press {t.display} {key}" fun p => p.noteOptions s!"press {t.display}" options
  | .setInputFiles t files =>
    p.act t s!"setInputFiles {t.display} {files.length}" fun p =>
      p.changeTarget t fun e => { e with files := files }
  | .waitForTimeout ms => p.record s!"wait {ms}" id
  | .title => (.ok p.title, p)
  | .url => (.ok p.url, p)
  | .content => (.ok p.html, p)
  | .isVisible t => (.ok ((p.find? t).any fun e => !e.hidden), p)
  | .textContent t => p.read t fun e => some e.text
  | .inputValue t => p.read t (·.value)
  | .getAttribute t name => p.read t fun e => e.attributes.lookup name
  | .computedStyle t property => p.read t fun e => (e.styles.lookup property).getD ""
  | .evaluate _ arg =>
    match p.record s!"evaluate {arg.compact}" id with
    | (.ok _, p) => (.ok p.evaluateResult, p)
    | (.error fault, p) => (.error fault, p)
  | .mouseMove x y => p.record s!"mouse.move {numberText x} {numberText y}" id
  | .mouseDown => p.record "mouse.down" id
  | .mouseUp => p.record "mouse.up" id
  | .mouseClick x y count => p.record s!"mouse.click {numberText x} {numberText y} x{count}" id
  | .keyboardPress key => p.record s!"keyboard.press {key}" id
  | .close => (.ok (), p)

def page : Page MemoryPage where
  serve c p :=
    let (answer, after) := p.serve c
    { answer, after, abandoned := p }

end MemoryPage

end Walkthrough
