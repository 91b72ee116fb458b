import Mathlib.Logic.Function.Basic
import Walkthrough.Proofs.Settings.Spelling
import Walkthrough.Settings.Browser
import Walkthrough.Settings.Run
import Walkthrough.Settings.Telemetry

/-!
Which variable controls which setting. A setting depends on its own variable alone, and a variable
has a say in no other setting. A value that spells nothing for its setting is as good as none.
-/
namespace Walkthrough

open Text (Blank)

structure Settings where
  run : RunSettings := {}
  browser : BrowserSettings := {}
  telemetry : TelemetrySettings := {}
deriving DecidableEq, Repr

def Settings.ofEnvironment (env : Environment) : Settings where
  run := .ofEnvironment env
  browser := .ofEnvironment env
  telemetry := .ofEnvironment env

inductive Setting where
  | expectTimeout
  | pollInterval
  | actionTimeout
  | maxSteps
  | strictTargets
  | strictValidationTypes
  | headless
  | console
  | browser
  | baseUrl
  | program
  | script
  | serviceName
  | collector
  | samplingRatio
deriving DecidableEq, Repr

namespace Setting

def name : Setting → String
  | .expectTimeout => "RUNNER_EXPECT_TIMEOUT_MS"
  | .pollInterval => "RUNNER_POLL_INTERVAL_MS"
  | .actionTimeout => "RUNNER_ACTION_TIMEOUT_MS"
  | .maxSteps => "RUNNER_MAX_STEPS"
  | .strictTargets => "RUNNER_STRICT_TARGETS"
  | .strictValidationTypes => "RUNNER_STRICT_VALIDATION_TYPES"
  | .headless => "RUNNER_HEADLESS"
  | .console => "RUNNER_LOG_CONSOLE"
  | .browser => "RUNNER_BROWSER"
  | .baseUrl => "RUNNER_BASE_URL"
  | .program => "RUNNER_NODE_BIN"
  | .script => "RUNNER_BRIDGE_SCRIPT"
  | .serviceName => "OTEL_SERVICE_NAME"
  | .collector => "OTEL_EXPORTER_OTLP_ENDPOINT"
  | .samplingRatio => "OTEL_TRACES_SAMPLER_ARG"

abbrev Value : Setting → Type
  | .expectTimeout | .pollInterval | .actionTimeout => Duration
  | .maxSteps => Nat
  | .strictTargets | .strictValidationTypes | .headless | .console => Bool
  | .browser | .program | .serviceName => String
  | .baseUrl | .script | .collector => Option String
  | .samplingRatio => Binary64

def get : (s : Setting) → Settings → s.Value
  | .expectTimeout, all => all.run.expectTimeout
  | .pollInterval, all => all.run.pollInterval
  | .actionTimeout, all => all.run.actionTimeout
  | .maxSteps, all => all.run.maxSteps
  | .strictTargets, all => all.run.strictTargets
  | .strictValidationTypes, all => all.run.strictValidationTypes
  | .headless, all => all.browser.headless
  | .console, all => all.telemetry.console
  | .browser, all => all.browser.browser
  | .baseUrl, all => all.browser.baseUrl
  | .program, all => all.browser.program
  | .script, all => all.browser.script
  | .serviceName, all => all.telemetry.serviceName
  | .collector, all => all.telemetry.collector
  | .samplingRatio, all => all.telemetry.samplingRatio

def standard (s : Setting) : s.Value := s.get {}

def Spells : (s : Setting) → String → s.Value → Prop
  | .expectTimeout, text, d | .actionTimeout, text, d =>
    ∃ ms, SpellsNumber wordBound text ms ∧ d = .ofMillis ms
  | .pollInterval, text, d => ∃ ms, SpellsNumber wordBound text ms ∧ d = .ofMillis (max 1 ms)
  | .maxSteps, text, n => SpellsNumber wordBound text n
  | .strictTargets, text, b | .strictValidationTypes, text, b | .headless, text, b
  | .console, text, b => SpellsFlag text b
  | .browser, text, name => SpellsName text name
  | .program, text, v | .serviceName, text, v => ¬ Blank text.toList ∧ v = text
  | .baseUrl, text, v | .script, text, v | .collector, text, v =>
    ¬ Blank text.toList ∧ v = some text
  | .samplingRatio, text, ratio =>
    ∃ x, Binary64.ofText? text = some x ∧ ratio = Binary64.clamp .zero .one x

theorem name_injective {s t : Setting} (same : s.name = t.name) : s = t := by
  cases s <;> cases t <;> first | rfl | exact absurd same (by decide)

def read? : (s : Setting) → String → Option s.Value
  | .expectTimeout, text | .actionTimeout, text =>
    (numeral? wordBound (Text.trim text)).map .ofMillis
  | .pollInterval, text =>
    (numeral? wordBound (Text.trim text)).map fun ms => .ofMillis (max 1 ms)
  | .maxSteps, text => numeral? wordBound (Text.trim text)
  | .strictTargets, text | .strictValidationTypes, text | .headless, text | .console, text =>
    Environment.flagOf? text
  | .browser, text =>
    if Text.isAllBlank text then none else some (Environment.lowerAscii (Text.trim text))
  | .program, text | .serviceName, text => if Text.isAllBlank text then none else some text
  | .baseUrl, text | .script, text | .collector, text =>
    if Text.isAllBlank text then none else some (some text)
  | .samplingRatio, text => (Binary64.ofText? text).map (Binary64.clamp .zero .one)

theorem read?_eq_some_iff {s : Setting} {text : String} {v : s.Value} :
    s.read? text = some v ↔ s.Spells text v := by
  have duration {f : Nat → Duration} {d : Duration} :
      (numeral? wordBound (Text.trim text)).map f = some d ↔
        ∃ ms, SpellsNumber wordBound text ms ∧ d = f ms :=
    Option.map_eq_some_iff.trans (exists_congr fun _ => and_congr numeral?_trim_iff eq_comm)
  have whole {α : Type} {w v : α} : (if Text.isAllBlank text then none else some w) = some v ↔
      ¬ Blank text.toList ∧ v = w := by
    rw [Option.ite_none_left_eq_some, isAllBlank_iff, Option.some_inj, eq_comm]
  cases s with
  | expectTimeout | actionTimeout | pollInterval =>
    rw [read?, Spells]
    exact duration
  | maxSteps =>
    rw [read?, Spells]
    exact numeral?_trim_iff
  | strictTargets | strictValidationTypes | headless | console =>
    rw [read?, Spells]
    exact flagOf?_eq_some_iff
  | browser => exact whole.trans spellsName_iff.symm
  | program | serviceName | baseUrl | script | collector => exact whole
  | samplingRatio =>
    exact Option.map_eq_some_iff.trans (exists_congr fun _ => and_congr_right fun _ => eq_comm)

theorem apply_bind {α β : Type} (k : Option α → β) (o : Option String)
    (read : String → Option α) :
    k (o.bind read) = (o.bind fun text => (read text).map fun a => k (some a)).getD (k none) := by
  cases o with
  | none => rfl
  | some text => cases found : read text <;> simp [found]

theorem apply_filter {β : Type} (k : Option String → β) (o : Option String) :
    k (o.filter fun text => !Text.isAllBlank text) =
      (o.bind fun text => if Text.isAllBlank text then none else some (k (some text))).getD
        (k none) := by
  cases o with
  | none => rfl
  | some text => cases blank : Text.isAllBlank text <;> simp [Option.filter, blank]

theorem get_ofEnvironment (s : Setting) (env : Environment) :
    s.get (.ofEnvironment env) = ((env s.name).bind s.read?).getD s.standard := by
  cases s with
  | expectTimeout => exact apply_bind (fun o => Duration.ofMillis (o.getD 5000)) ..
  | actionTimeout => exact apply_bind (fun o => Duration.ofMillis (o.getD 30000)) ..
  | pollInterval => exact apply_bind (fun o => Duration.ofMillis ((o.map (max 1)).getD 100)) ..
  | maxSteps | strictTargets | strictValidationTypes | headless | console => rfl
  | browser =>
    exact apply_filter (fun o =>
      (o.map fun v => Environment.lowerAscii (Text.trim v)).getD "chromium") _
  | program => exact apply_filter (·.getD "node") _
  | serviceName => exact apply_filter (·.getD "scenario-runner") _
  | baseUrl | script | collector => exact apply_filter id _
  | samplingRatio => exact apply_bind (·.elim .one (Binary64.clamp .zero .one)) ..

variable {s t : Setting} {env env' : Environment} {text : String} {v : s.Value}

theorem get_congr (agree : env s.name = env' s.name) :
    s.get (.ofEnvironment env) = s.get (.ofEnvironment env') := by
  rw [get_ofEnvironment, get_ofEnvironment, agree]

theorem get_of_spells (set_ : env s.name = some text) (spelled : s.Spells text v) :
    s.get (.ofEnvironment env) = v := by
  rw [get_ofEnvironment, set_, Option.bind_some, read?_eq_some_iff.mpr spelled, Option.getD_some]

theorem get_of_not_spells (idle : ∀ text, env s.name = some text → ∀ v, ¬ s.Spells text v) :
    s.get (.ofEnvironment env) = s.standard := by
  have unread : (env s.name).bind s.read? = none := by
    rw [Option.bind_eq_none_iff]
    intro text set_
    rw [Option.eq_none_iff_forall_ne_some]
    exact fun v read => idle text set_ v (read?_eq_some_iff.mp read)
  rw [get_ofEnvironment, unread, Option.getD_none]

theorem get_update (other : t ≠ s) (env : Environment) (value : Option String) :
    t.get (.ofEnvironment (Function.update env s.name value)) = t.get (.ofEnvironment env) :=
  get_congr (Function.update_of_ne (fun same => other (name_injective same)) _ _)

end Setting

theorem Settings.ext_get {a b : Settings} (same : ∀ s : Setting, s.get a = s.get b)
    (level : a.telemetry.logLevel = b.telemetry.logLevel) : a = b := by
  obtain ⟨⟨⟩, ⟨⟩, ⟨⟩⟩ := a
  obtain ⟨⟨⟩, ⟨⟩, ⟨⟩⟩ := b
  simp only [Settings.mk.injEq, RunSettings.mk.injEq, BrowserSettings.mk.injEq,
    TelemetrySettings.mk.injEq]
  exact ⟨⟨same .expectTimeout, same .pollInterval, same .actionTimeout, same .strictTargets,
    same .strictValidationTypes, same .maxSteps⟩,
    ⟨same .browser, same .headless, same .baseUrl, same .program, same .script⟩,
    same .serviceName, same .collector, same .samplingRatio, same .console, level⟩

namespace Setting

variable {s : Setting} {text : String}

theorem ofEnvironment_update_idle (idle : ∀ v, ¬ s.Spells text v) (env : Environment) :
    Settings.ofEnvironment (Function.update env s.name (some text)) =
      Settings.ofEnvironment (Function.update env s.name none) := by
  refine Settings.ext_get (fun t => ?_) rfl
  -- The setting of the variable is the standard one either way, and no other one has changed.
  by_cases own : t = s
  · subst own
    have standard : ∀ value ∈ [some text, none],
        t.get (.ofEnvironment (Function.update env t.name value)) = t.standard := by
      intro value among
      refine get_of_not_spells fun text' set_ => ?_
      rw [Function.update_self] at set_
      subst set_
      obtain rfl : text' = text := by simpa using among
      exact idle
    rw [standard (some text) (by simp), standard none (by simp)]
  · rw [get_update own, get_update own]

/-- A variable controls one setting and nothing else. -/
structure Controlled (s : Setting) : Prop where
  agrees : ∀ env env' : Environment, env s.name = env' s.name →
    s.get (.ofEnvironment env) = s.get (.ofEnvironment env')
  takes : ∀ (env : Environment) text v, env s.name = some text → s.Spells text v →
    s.get (.ofEnvironment env) = v
  fallsBack : ∀ env : Environment, (∀ text, env s.name = some text → ∀ v, ¬ s.Spells text v) →
    s.get (.ofEnvironment env) = s.standard
  idle : ∀ text, (∀ v, ¬ s.Spells text v) → ∀ env : Environment,
    Settings.ofEnvironment (Function.update env s.name (some text)) =
      Settings.ofEnvironment (Function.update env s.name none)
  others : ∀ t, t ≠ s → ∀ (env : Environment) (value : Option String),
    t.get (.ofEnvironment (Function.update env s.name value)) = t.get (.ofEnvironment env)

theorem controlled (s : Setting) : s.Controlled where
  agrees _ _ := get_congr
  takes _ _ _ := get_of_spells
  fallsBack _ := get_of_not_spells
  idle _ := ofEnvironment_update_idle
  others _ := get_update

end Setting

theorem pollInterval_pos (env : Environment) :
    1 ≤ (RunSettings.ofEnvironment env).pollInterval.millis := by
  have whole (ms : Nat) : (Duration.ofMillis ms).millis = ms := by
    simp only [Duration.ofMillis, Duration.millis]
    omega
  rw [RunSettings.ofEnvironment, whole]
  cases env.nat? "RUNNER_POLL_INTERVAL_MS" with
  | none => decide
  | some ms => exact Nat.le_max_left 1 ms

/-- Each variable controls one setting and nothing else, the settings are all of them, and between
two tries of an assertion there is always some time. -/
theorem settings_independent :
    (∀ s : Setting, s.Controlled) ∧
      (∀ env env' : Environment, (∀ s : Setting, env s.name = env' s.name) →
        Settings.ofEnvironment env = Settings.ofEnvironment env') ∧
      ∀ env, 1 ≤ (RunSettings.ofEnvironment env).pollInterval.millis :=
  ⟨Setting.controlled,
    fun _ _ agree => Settings.ext_get (fun s => Setting.get_congr (agree s)) rfl, pollInterval_pos⟩

namespace Sample

def brief : Environment := fun name => if name = "RUNNER_MAX_STEPS" then some " +007\t" else none

/-- The number takes effect, and what is neither yes nor no is as good as no value. -/
theorem brief_settings :
    Setting.maxSteps.Spells " +007\t" (7 : Nat) ∧ (RunSettings.ofEnvironment brief).maxSteps = 7 ∧
      (∀ b, ¬ Setting.headless.Spells "maybe" b) ∧
      Settings.ofEnvironment (Function.update brief "RUNNER_HEADLESS" (some "maybe")) =
        Settings.ofEnvironment (Function.update brief "RUNNER_HEADLESS" none) := by
  obtain ⟨controlled, -, -⟩ := settings_independent
  have seven : Setting.maxSteps.Spells " +007\t" (7 : Nat) :=
    Setting.read?_eq_some_iff.mp (by decide +kernel)
  have neither : ∀ b, ¬ Setting.headless.Spells "maybe" b := by
    intro b spelled
    have read : Setting.headless.read? "maybe" = none := by decide +kernel
    rw [Setting.read?_eq_some_iff.mpr spelled] at read
    cases read
  exact ⟨seven, (controlled .maxSteps).takes brief _ _ rfl seven, neither,
    (controlled .headless).idle _ neither brief⟩

end Sample

end Walkthrough
