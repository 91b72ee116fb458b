import Walkthrough.Handler.Registry
import Walkthrough.Json.Record

/-!
Selecting a word on the page: one of its occurrences is looked up in the page, and then selected
with the mouse or with the keyboard.
-/
namespace Walkthrough.SelectWord

open Json (RecordField Schema Reader)

def scriptLines : List String := [
  "(\x7b word, selector, nth \x7d) => \x7b",
  "  const root = (selector && document.querySelector(selector)) || document;",
  "  const walker = document.createTreeWalker(root, NodeFilter.SHOW_TEXT);",
  "  let count = 0;",
  "  let node;",
  "  while ((node = walker.nextNode())) \x7b",
  "    const text = node.data;",
  "    let from = 0;",
  "    for (;;) \x7b",
  "      const idx = text.indexOf(word, from);",
  "      if (idx === -1) break;",
  "      if (count === nth) \x7b",
  "        const range = document.createRange();",
  "        range.setStart(node, idx);",
  "        range.setEnd(node, idx + word.length);",
  "        const rects = range.getClientRects();",
  "        const first = rects[0];",
  "        const last = rects[rects.length - 1];",
  "        const b = range.getBoundingClientRect();",
  "        return \x7b",
  "          startX: first ? first.left : b.left,",
  "          startY: first ? first.top : b.top,",
  "          endX: last ? last.right : b.right,",
  "          endY: last ? last.bottom : b.bottom,",
  "          centerX: b.left + b.width / 2,",
  "          centerY: b.top + b.height / 2,",
  "        \x7d;",
  "      \x7d",
  "      count++;",
  "      from = idx + word.length;",
  "    \x7d",
  "  \x7d",
  "  return null;",
  "\x7d"]

def script : String := Text.join "\n" scriptLines

inductive Mode where
  | mouse
  | keyboard
  | auto
deriving DecidableEq, Repr

inductive Method where
  | double
  | drag
deriving DecidableEq, Repr

structure Order where
  word : String := ""
  selector : Option String := none
  nth : Nat := 0
  mode : Mode := .mouse
  method : Method := .double
  wordwise : Bool := false
deriving DecidableEq, Repr

def modes : List (String × Mode) := [("mouse", .mouse), ("keyboard", .keyboard), ("auto", .auto)]

def methods : List (String × Method) := [("double", .double), ("drag", .drag)]

def nameIn {α : Type} [DecidableEq α] (known : List (String × α)) (a : α) : Json :=
  Json.ofOption (fun (name, _) => .string name) (known.find? fun (_, b) => b = a)

def orderSchema : Schema Order where
  label := "SelectWordData"
  blank := {}
  fields := [
    .required "word" Reader.string Json.string (·.word) fun v o => { o with word := v },
    .optional "selector" Reader.string Json.string (·.selector) fun v o => { o with selector := v },
    .withDefault "nth" (Reader.nat "u64") Json.ofNat (·.nth) fun v o => { o with nth := v },
    .withDefault "mode" (Reader.variant modes) (nameIn modes) (·.mode)
      fun v o => { o with mode := v },
    .withDefault "method" (Reader.variant methods) (nameIn methods) (·.method)
      fun v o => { o with method := v },
    .withDefault "wordwise" Reader.bool Json.bool (·.wordwise)
      fun v o => { o with wordwise := v }]

structure Box where
  startX : Binary64 := .zero
  startY : Binary64 := .zero
  endX : Binary64 := .zero
  endY : Binary64 := .zero
  centerX : Binary64 := .zero
  centerY : Binary64 := .zero
deriving DecidableEq, Repr

def placeField (name : String) (get : Box → Binary64) (set : Binary64 → Box → Box) :
    RecordField Box :=
  .required name Reader.real Json.ofBinary64 get set

def boxSchema : Schema Box where
  label := "WordBox"
  blank := {}
  fields := [
    placeField "startX" (·.startX) fun v b => { b with startX := v },
    placeField "startY" (·.startY) fun v b => { b with startY := v },
    placeField "endX" (·.endX) fun v b => { b with endX := v },
    placeField "endY" (·.endY) fun v b => { b with endY := v },
    placeField "centerX" (·.centerX) fun v b => { b with centerX := v },
    placeField "centerY" (·.centerY) fun v b => { b with centerY := v }]

inductive Fault where
  | noWord
  | badOrder (fault : Json.ReadFault)
  | notFound (word : String) (within : Option String)
  | badBox (fault : Json.ReadFault)
deriving DecidableEq, Repr

def Fault.trouble : Fault → Trouble
  | .noWord => ⟨"Step data must include a 'word' property.", []⟩
  | .badOrder fault => ⟨"invalid selectWord data", [fault.message]⟩
  | .notFound word none => ⟨s!"Word '{word}' not found.", []⟩
  | .notFound word (some place) => ⟨s!"Word '{word}' not found within '{place}'.", []⟩
  | .badBox fault => ⟨"unexpected word box shape", [fault.message]⟩

def hasWord (data : Json) : Bool :=
  match data.member? "word" with
  | none | some .null => false
  | some word => word.plain != ""

def orderOf (data : Option Json) : Except Fault Order :=
  let data := data.getD .null
  if hasWord data then
    match Reader.ofValue orderSchema.read data with
    | .ok order => .ok order
    | .error fault => .error (.badOrder fault)
  else .error .noWord

def boxOf (order : Order) : Json → Except Fault Box
  | .null => .error (.notFound order.word order.selector)
  | found =>
    match Reader.ofValue boxSchema.read found with
    | .ok box => .ok box
    | .error fault => .error (.badBox fault)

def question (order : Order) : Json :=
  Json.objectOf [("word", .string order.word),
    ("selector", Json.ofOption Json.string order.selector), ("nth", Json.ofNat order.nth)]

def wordKeys : String := "Alt+Shift+ArrowRight"

def characterKeys : String := "Shift+ArrowRight"

def keysFor (order : Order) : List String :=
  if order.wordwise then [wordKeys] else order.word.toList.map fun _ => characterKeys

def gestures (order : Order) (b : Box) : List Call :=
  .mouseMove b.centerX b.centerY :: match order.mode, order.method with
    | .keyboard, _ => .mouseClick b.startX b.startY 1 :: (keysFor order).map .keyboardPress
    | _, .double => [.mouseClick b.centerX b.centerY 2]
    | _, .drag =>
      [.mouseMove b.startX b.startY, .mouseDown, .mouseMove b.endX b.endY, .mouseUp]

def makeAll : List Call → Attempt Trouble Unit
  | [] => return ()
  | c :: rest => do
    let _ ← Handler.call c
    makeAll rest

def orFail {α : Type} : Except Fault α → Attempt Trouble α
  | .ok a => return a
  | .error fault => throw fault.trouble

def handler : ActionHandler := fun step => do
  let order ← orFail (orderOf step.data)
  let found ← Handler.call (.evaluate script (question order))
  let box ← orFail (boxOf order found)
  makeAll (gestures order box)

end Walkthrough.SelectWord
