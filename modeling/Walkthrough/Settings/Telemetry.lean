import Walkthrough.Settings.Environment

/-!
Settings of telemetry: where traces go, and which share of them is taken.
-/
namespace Walkthrough

inductive LogLevel where
  | error
  | warn
  | info
  | debug
  | trace
deriving DecidableEq, Repr

def LogLevel.name : LogLevel → String
  | .error => "ERROR"
  | .warn => "WARN"
  | .info => "INFO"
  | .debug => "DEBUG"
  | .trace => "TRACE"

structure TelemetrySettings where
  serviceName : String := "scenario-runner"
  /-- Where traces are sent; without it they are only logged. -/
  collector : Option String := none
  samplingRatio : Binary64 := .one
  console : Bool := true
  logLevel : LogLevel := .info
deriving DecidableEq, Repr

namespace TelemetrySettings

def ofEnvironment (env : Environment) : TelemetrySettings where
  serviceName := (env.text? "OTEL_SERVICE_NAME").getD "scenario-runner"
  collector := env.text? "OTEL_EXPORTER_OTLP_ENDPOINT"
  samplingRatio := ((env "OTEL_TRACES_SAMPLER_ARG").bind Binary64.ofText?).elim .one
    (Binary64.clamp .zero .one)
  console := (env.flag? "RUNNER_LOG_CONSOLE").getD true

end TelemetrySettings

inductive Sampler where
  | always
  | never
  | share (ratio : Binary64)
deriving DecidableEq, Repr

def Sampler.ofRatio (ratio : Binary64) : Sampler :=
  if Binary64.one.lt ratio ∨ ratio = .one then .always
  else if ratio.lt .zero ∨ ratio = .zero ∨ ratio = .finite true .zero then .never
  else .share ratio

end Walkthrough
