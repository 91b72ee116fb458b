import Walkthrough.Upload

/-!
Calls on a page, each with the kind of value that it returns when it succeeds.
-/
namespace Walkthrough

inductive Call where
  | goto (url : String) (options : Option Json)
  /-- How many elements the target stands for at the moment. -/
  | count (target : Target)
  | fill (target : Target) (value : String) (options : Option Json)
  | type (target : Target) (text : String) (options : Option Json)
  | click (target : Target) (options : Option Json)
  | hover (target : Target) (options : Option Json)
  | press (target : Target) (key : String) (options : Option Json)
  /-- Puts files in place of those that a file input has. -/
  | setInputFiles (target : Target) (files : List Payload)
  | waitForTimeout (ms : Nat)
  | title
  | url
  /-- The text of the whole page. -/
  | content
  /-- An absent element is not visible. -/
  | isVisible (target : Target)
  | textContent (target : Target)
  | inputValue (target : Target)
  | getAttribute (target : Target) (name : String)
  | computedStyle (target : Target) (property : String)
  | evaluate (script : String) (arg : Json)
  | mouseMove (x y : Binary64)
  | mouseDown
  | mouseUp
  | mouseClick (x y : Binary64) (count : Nat)
  | keyboardPress (key : String)
  | close
deriving BEq, Repr

inductive ValueKind where
  | nothing
  | number
  | flag
  | text
  | optionalText
  | data
deriving DecidableEq, Repr

abbrev ValueKind.Value : ValueKind → Type
  | .nothing => Unit
  | .number => Nat
  | .flag => Bool
  | .text => String
  | .optionalText => Option String
  | .data => Json

namespace Call

def name : Call → String
  | .goto .. => "goto"
  | .count .. => "count"
  | .fill .. => "fill"
  | .type .. => "type"
  | .click .. => "click"
  | .hover .. => "hover"
  | .press .. => "press"
  | .setInputFiles .. => "setInputFiles"
  | .waitForTimeout .. => "waitForTimeout"
  | .title => "title"
  | .url => "url"
  | .content => "content"
  | .isVisible .. => "isVisible"
  | .textContent .. => "textContent"
  | .inputValue .. => "inputValue"
  | .getAttribute .. => "getAttribute"
  | .computedStyle .. => "computedStyle"
  | .evaluate .. => "evaluate"
  | .mouseMove .. => "mouse.move"
  | .mouseDown => "mouse.down"
  | .mouseUp => "mouse.up"
  | .mouseClick .. => "mouse.click"
  | .keyboardPress .. => "keyboard.press"
  | .close => "close"

def target? : Call → Option Target
  | .count t | .fill t _ _ | .type t _ _ | .click t _ | .hover t _ | .press t _ _
  | .setInputFiles t _ | .isVisible t | .textContent t | .inputValue t | .getAttribute t _
  | .computedStyle t _ => some t
  | _ => none

abbrev kind : Call → ValueKind
  | .count _ => .number
  | .isVisible _ => .flag
  | .title | .url | .content | .inputValue _ | .computedStyle _ _ => .text
  | .textContent _ | .getAttribute _ _ => .optionalText
  | .evaluate _ _ => .data
  | _ => .nothing

abbrev Value (c : Call) : Type := c.kind.Value

abbrev Answer (c : Call) : Type := Except PageFault c.Value

end Call

end Walkthrough
