import Walkthrough.Settings.Environment

/-!
Settings of the browser and of the bridge that serves it.
-/
namespace Walkthrough

structure BrowserSettings where
  browser : String := "chromium"
  headless : Bool := true
  /-- What relative paths are resolved against. -/
  baseUrl : Option String := none
  /-- The program that runs the bridge. -/
  program : String := "node"
  /-- A script in place of the built-in bridge. -/
  script : Option String := none
deriving DecidableEq, Repr

namespace BrowserSettings

def ofEnvironment (env : Environment) : BrowserSettings where
  browser := ((env.text? "RUNNER_BROWSER").map fun v =>
    Environment.lowerAscii (Text.trim v)).getD "chromium"
  headless := (env.flag? "RUNNER_HEADLESS").getD true
  baseUrl := env.text? "RUNNER_BASE_URL"
  program := (env.text? "RUNNER_NODE_BIN").getD "node"
  script := env.text? "RUNNER_BRIDGE_SCRIPT"

end BrowserSettings

end Walkthrough
