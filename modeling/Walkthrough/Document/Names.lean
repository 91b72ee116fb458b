/-!
The instruction set of a test document. A name that is not known is kept, so that a document can
be read in full and the name is refused only where it is used.
-/
namespace Walkthrough

inductive Action where
  | goto
  | fill
  | type
  | click
  | hover
  | press
  | upload
  | waitForTimeout
  | custom
  | unknown (name : String)
deriving DecidableEq, Repr

namespace Action

def known : List (String × Action) := [
  ("goto", .goto),
  ("fill", .fill),
  ("type", .type),
  ("click", .click),
  ("hover", .hover),
  ("press", .press),
  ("upload", .upload),
  ("waitForTimeout", .waitForTimeout),
  ("custom", .custom)]

def ofName (name : String) : Action := (known.lookup name).getD (.unknown name)

def name : Action → String
  | .goto => "goto"
  | .fill => "fill"
  | .type => "type"
  | .click => "click"
  | .hover => "hover"
  | .press => "press"
  | .upload => "upload"
  | .waitForTimeout => "waitForTimeout"
  | .custom => "custom"
  | .unknown name => name

def isKnown : Action → Bool
  | .unknown _ => false
  | _ => true

def needsTarget : Action → Bool
  | .fill | .type | .click | .hover | .press | .upload => true
  | _ => false

end Action

inductive Strategy where
  | css
  | xpath
  | id
  | text
  | testId
  | unknown (name : String)
deriving DecidableEq, Repr

namespace Strategy

def known : List (String × Strategy) :=
  [("css", .css), ("xpath", .xpath), ("id", .id), ("text", .text), ("testId", .testId)]

def ofName (name : String) : Strategy := (known.lookup name).getD (.unknown name)

def name : Strategy → String
  | .css => "css"
  | .xpath => "xpath"
  | .id => "id"
  | .text => "text"
  | .testId => "testId"
  | .unknown name => name

end Strategy

inductive ValidationKind where
  | toBeVisible
  | toBeHidden
  | toHaveTitle
  | toHaveUrl
  | toHaveText
  | toHaveValue
  | toHaveAttribute
  | toHaveCss
  | toHaveClass
  | custom
  | unknown (name : String)
deriving DecidableEq, Repr

namespace ValidationKind

def known : List (String × ValidationKind) := [
  ("toBeVisible", .toBeVisible),
  ("toBeHidden", .toBeHidden),
  ("toHaveTitle", .toHaveTitle),
  ("toHaveURL", .toHaveUrl),
  ("toHaveText", .toHaveText),
  ("toHaveValue", .toHaveValue),
  ("toHaveAttribute", .toHaveAttribute),
  ("toHaveCSS", .toHaveCss),
  ("toHaveClass", .toHaveClass),
  ("custom", .custom)]

def ofName (name : String) : ValidationKind := (known.lookup name).getD (.unknown name)

def name : ValidationKind → String
  | .toBeVisible => "toBeVisible"
  | .toBeHidden => "toBeHidden"
  | .toHaveTitle => "toHaveTitle"
  | .toHaveUrl => "toHaveURL"
  | .toHaveText => "toHaveText"
  | .toHaveValue => "toHaveValue"
  | .toHaveAttribute => "toHaveAttribute"
  | .toHaveCss => "toHaveCSS"
  | .toHaveClass => "toHaveClass"
  | .custom => "custom"
  | .unknown name => name

def needsTarget : ValidationKind → Bool
  | .toHaveTitle | .toHaveUrl | .custom | .unknown _ => false
  | _ => true

end ValidationKind

end Walkthrough
