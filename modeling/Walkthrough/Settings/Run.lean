import Walkthrough.Settings.Duration
import Walkthrough.Settings.Environment

/-!
Settings of a run: how long assertions and actions may take, and which lenient rules become strict.
-/
namespace Walkthrough

structure RunSettings where
  /-- How long an assertion is tried. -/
  expectTimeout : Duration := .ofMillis 5000
  /-- How long to wait between two tries. -/
  pollInterval : Duration := .ofMillis 100
  /-- How long one action may take, unless it is a wait. -/
  actionTimeout : Duration := .ofMillis 30000
  /-- An action that needs a target fails without one. -/
  strictTargets : Bool := false
  /-- A validation of unknown type fails. -/
  strictValidationTypes : Bool := false
  maxSteps : Nat := 200
deriving DecidableEq, Repr

namespace RunSettings

def strict : RunSettings := { strictTargets := true, strictValidationTypes := true }

def ofEnvironment (env : Environment) : RunSettings where
  expectTimeout := .ofMillis ((env.nat? "RUNNER_EXPECT_TIMEOUT_MS").getD 5000)
  pollInterval := .ofMillis (((env.nat? "RUNNER_POLL_INTERVAL_MS").map (max 1)).getD 100)
  actionTimeout := .ofMillis ((env.nat? "RUNNER_ACTION_TIMEOUT_MS").getD 30000)
  strictTargets := (env.flag? "RUNNER_STRICT_TARGETS").getD false
  strictValidationTypes := (env.flag? "RUNNER_STRICT_VALIDATION_TYPES").getD false
  maxSteps := (env.nat? "RUNNER_MAX_STEPS").getD 200

open Json (RecordField Schema Reader)

def durationField (name : String) (get : RunSettings → Duration)
    (set : Duration → RunSettings → RunSettings) : RecordField RunSettings :=
  .required name Duration.reader Duration.toJson get set

def schema : Schema RunSettings where
  label := "EngineConfig"
  blank := {}
  fields := [
    durationField "expect_timeout" (·.expectTimeout) fun v s => { s with expectTimeout := v },
    durationField "poll_interval" (·.pollInterval) fun v s => { s with pollInterval := v },
    durationField "action_timeout" (·.actionTimeout) fun v s => { s with actionTimeout := v },
    .required "strict_targets" Reader.bool Json.bool (·.strictTargets)
      fun v s => { s with strictTargets := v },
    .required "strict_validation_types" Reader.bool Json.bool (·.strictValidationTypes)
      fun v s => { s with strictValidationTypes := v },
    .required "max_steps" (Reader.nat "usize") Json.ofNat (·.maxSteps)
      fun v s => { s with maxSteps := v }]

def parse (text : String) : Except Json.ReadFault RunSettings := Reader.run schema.read text

def toJson (s : RunSettings) : Json := schema.write s

end RunSettings

end Walkthrough
