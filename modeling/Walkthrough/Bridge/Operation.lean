import Walkthrough.Json.Printer
import Walkthrough.Play.Call
import Walkthrough.Settings.Browser

/-!
Requests to the bridge. A request is one line of JSON: the name of an operation, its arguments, and
the number of the request, which the reply repeats.
-/
namespace Walkthrough

def Payload.toJson : Payload → Json
  | .path file => Json.objectOf [("path", .string file)]
  | .content name mimeType bytes => Json.objectOf [("name", .string name),
      ("mimeType", Json.ofOption Json.string mimeType), ("buffer", .string (Base64.text bytes))]

namespace Bridge

structure Operation where
  name : String
  arguments : List (String × Json)
deriving BEq, Repr

namespace Operation

def launch (s : BrowserSettings) : Operation :=
  ⟨"launch", [("browser", .string s.browser), ("headless", .bool s.headless),
    ("baseUrl", Json.ofOption Json.string s.baseUrl)]⟩

def options (o : Option Json) : String × Json := ("options", o.getD .null)

def details : Call → List (String × Json)
  | .goto url o => [("url", .string url), options o]
  | .fill _ value o => [("value", .string value), options o]
  | .type _ text o => [("text", .string text), options o]
  | .click _ o => [options o]
  | .hover _ o => [options o]
  | .press _ key o => [("key", .string key), options o]
  | .setInputFiles _ files => [("files", .array (files.map Payload.toJson))]
  | .waitForTimeout ms => [("ms", Json.ofNat ms)]
  | .getAttribute _ name => [("name", .string name)]
  | .computedStyle _ property => [("property", .string property)]
  | .evaluate script arg => [("script", .string script), ("arg", arg)]
  | .mouseMove x y => [("x", Json.ofBinary64 x), ("y", Json.ofBinary64 y)]
  | .mouseClick x y count =>
    [("x", Json.ofBinary64 x), ("y", Json.ofBinary64 y), ("clickCount", Json.ofNat count)]
  | .keyboardPress key => [("key", .string key)]
  | _ => []

def ofCall (c : Call) : Operation :=
  ⟨c.name, details c ++ (c.target?.map fun t => ("target", t.toJson)).toList⟩

def request (id : Nat) (o : Operation) : Json :=
  Json.objectOf (("id", Json.ofNat id) :: ("op", .string o.name) :: o.arguments)

def line (id : Nat) (o : Operation) : String := (o.request id).compact ++ "\n"

end Operation

end Bridge

end Walkthrough
