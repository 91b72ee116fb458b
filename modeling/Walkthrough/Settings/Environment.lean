import Walkthrough.Number.Decimal
import Walkthrough.Text.Blank

/-!
Variables of the environment and the values read from them. A value that cannot be read counts as
not set.
-/
namespace Walkthrough

abbrev Environment := String → Option String

namespace Environment

def nat? (env : Environment) (name : String) : Option Nat :=
  (env name).bind fun v => numeral? wordBound (Text.trim v)

def lowerAscii (s : String) : String := String.ofList (s.toList.map Char.toLower)

def flagOf? (text : String) : Option Bool :=
  match lowerAscii (Text.trim text) with
  | "1" | "true" | "yes" | "on" => some true
  | "0" | "false" | "no" | "off" => some false
  | _ => none

def flag? (env : Environment) (name : String) : Option Bool := (env name).bind flagOf?

def text? (env : Environment) (name : String) : Option String :=
  (env name).filter fun v => !Text.isAllBlank v

end Environment

end Walkthrough
