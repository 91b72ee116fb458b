import Walkthrough.Proofs.Number.Fraction
import Walkthrough.Settings.Telemetry

/-!
The share of traces that is taken. The text of a variable gives a number that is held between 0 and
1, and the sampler goes by its value; but a text that spells what is not a number is read as just
that, which no bound holds, and it becomes the share.
-/
namespace Walkthrough

open Binary64 (SpellsNan)

variable {ratio x : Binary64} {r v : ℚ}

/-- The ratio is a fraction of this value, and the sampler goes by the value. -/
structure SamplesFraction (ratio : Binary64) (r : ℚ) : Prop where
  value : ratio.value? = some r
  low : 0 ≤ r
  high : r ≤ 1
  always : Sampler.ofRatio ratio = .always ↔ r = 1
  never : Sampler.ofRatio ratio = .never ↔ r = 0
  share : Sampler.ofRatio ratio = .share ratio ↔ 0 < r ∧ r < 1

theorem Sampler.ofRatio_of_value (value : ratio.value? = some r) : Sampler.ofRatio ratio =
    if 1 ≤ r then .always else if r ≤ 0 then .never else .share ratio := by
  have atLeastOne : (Binary64.one.lt ratio = true ∨ ratio = .one) ↔ 1 ≤ r := by
    rw [Binary64.lt_iff Binary64.value?_one value, le_iff_lt_or_eq]
    refine or_congr_right ⟨?_, ?_⟩
    · rintro rfl
      exact Option.some.inj (Binary64.value?_one.symm.trans value)
    · rintro rfl
      exact Binary64.eq_of_value?_eq value Binary64.value?_one one_ne_zero
  have atMostZero : (ratio.lt .zero = true ∨ ratio = .zero ∨ ratio = .finite true .zero) ↔
      r ≤ 0 := by
    rw [Binary64.lt_iff value Binary64.value?_zero, ← Binary64.eq_zero_iff value, le_iff_lt_or_eq]
  simp only [ofRatio, atLeastOne, atMostZero]

theorem samplesFraction_of_value (value : ratio.value? = some r) (low : 0 ≤ r) (high : r ≤ 1) :
    SamplesFraction ratio r := by
  have sampler := Sampler.ofRatio_of_value value
  rcases low.eq_or_lt with rfl | positive
  · rw [if_neg (by decide), if_pos le_rfl] at sampler
    exact ⟨value, low, high, by simp [sampler], by simp [sampler], by simp [sampler]⟩
  · rw [if_neg positive.not_ge] at sampler
    rcases high.eq_or_lt with rfl | below
    · rw [if_pos le_rfl] at sampler
      exact ⟨value, low, high, by simp [sampler], by simp [sampler], by simp [sampler]⟩
    · rw [if_neg below.not_ge] at sampler
      exact ⟨value, low, high, by simp [sampler, below.ne], by simp [sampler, positive.ne'],
        by simp [sampler, positive, below]⟩

theorem samplesFraction_clamp (value : x.value? = some v) :
    SamplesFraction (Binary64.clamp .zero .one x) (max 0 (min v 1)) :=
  samplesFraction_of_value
    (Binary64.value?_clamp zero_le_one Binary64.value?_zero Binary64.value?_one value)
    (le_max_left _ _) (max_le zero_le_one (min_le_right _ _))

theorem samplesFraction_zero : SamplesFraction .zero 0 :=
  samplesFraction_of_value Binary64.value?_zero le_rfl zero_le_one

theorem samplesFraction_one : SamplesFraction .one 1 :=
  samplesFraction_of_value Binary64.value?_one zero_le_one le_rfl

theorem samplesFraction_infinite (negative : Bool) : SamplesFraction
    (Binary64.clamp .zero .one (.infinite negative)) (if negative then 0 else 1) := by
  rw [Binary64.clamp_infinite negative Binary64.value?_zero Binary64.value?_one]
  cases negative
  · exact samplesFraction_one
  · exact samplesFraction_zero

namespace TelemetrySettings

def shareOf (number : Option Binary64) : Binary64 :=
  number.elim .one (Binary64.clamp .zero .one)

theorem shareOf_nan : shareOf (some .nan) = .nan := Binary64.clamp_nan .zero .one

theorem exists_samplesFraction_iff (number : Option Binary64) :
    (∃ r, SamplesFraction (shareOf number) r) ↔ number ≠ some .nan := by
  constructor
  · rintro ⟨r, fraction⟩ rfl
    have value := fraction.value
    rw [shareOf_nan] at value
    cases value
  · intro held
    cases number with
    | none => exact ⟨1, samplesFraction_one⟩
    | some x =>
      cases x with
      | finite negative m => exact ⟨_, samplesFraction_clamp rfl⟩
      | infinite negative => exact ⟨_, samplesFraction_infinite negative⟩
      | nan => exact absurd rfl held

def readRatio (env : Environment) : Option Binary64 :=
  (env "OTEL_TRACES_SAMPLER_ARG").bind Binary64.ofText?

theorem readRatio_eq_nan_iff {env : Environment} : readRatio env = some .nan ↔
    ∃ text, env "OTEL_TRACES_SAMPLER_ARG" = some text ∧ SpellsNan text := by
  simp only [readRatio, Option.bind_eq_some_iff, Binary64.ofText?_eq_nan_iff]

/-- The share of traces is a fraction, by which the sampler goes, unless the variable's text spells
what is not a number. A number that is read is held between 0 and 1, and without one all traces are
taken. -/
theorem ratio_held (env : Environment) :
    let ratio := (ofEnvironment env).samplingRatio
    let spellsNan := ∃ text, env "OTEL_TRACES_SAMPLER_ARG" = some text ∧ SpellsNan text
    ((∃ r, SamplesFraction ratio r) ↔ ¬ spellsNan) ∧
      (spellsNan → ratio = .nan ∧ Sampler.ofRatio ratio = .share .nan) ∧
      (readRatio env = none → SamplesFraction ratio 1) ∧
      (∀ x v, readRatio env = some x → x.value? = some v →
        SamplesFraction ratio (max 0 (min v 1))) ∧
      ∀ negative, readRatio env = some (.infinite negative) →
        SamplesFraction ratio (if negative then 0 else 1) := by
  intro ratio spellsNan
  have share : ratio = shareOf (readRatio env) := rfl
  have nan : readRatio env = some .nan ↔ spellsNan := readRatio_eq_nan_iff
  rw [share, exists_samplesFraction_iff, Ne, nan]
  refine ⟨Iff.rfl, fun spelled => ?_, fun unread => ?_, fun x v read value => ?_,
    fun negative read => ?_⟩
  · rw [nan.mpr spelled, shareOf_nan]
    exact ⟨rfl, by decide⟩
  · rw [unread]
    exact samplesFraction_one
  · rw [read]
    exact samplesFraction_clamp value
  · rw [read]
    exact samplesFraction_infinite negative

end TelemetrySettings

namespace Sample

def sampled (text : String) : Environment :=
  fun name => if name = "OTEL_TRACES_SAMPLER_ARG" then some text else none

/-- Endlessly much is held at 1, and nothing at all is read of a word. -/
theorem endless_ratio_held :
    TelemetrySettings.readRatio (sampled "+Infinity") = some (.infinite false) ∧
      SamplesFraction (TelemetrySettings.ofEnvironment (sampled "+Infinity")).samplingRatio 1 ∧
      TelemetrySettings.readRatio (sampled "half") = none ∧
      SamplesFraction (TelemetrySettings.ofEnvironment (sampled "half")).samplingRatio 1 := by
  have endless : TelemetrySettings.readRatio (sampled "+Infinity") = some (.infinite false) := by
    decide +kernel
  have word : TelemetrySettings.readRatio (sampled "half") = none := by decide +kernel
  obtain ⟨-, -, -, -, infinite⟩ := TelemetrySettings.ratio_held (sampled "+Infinity")
  obtain ⟨-, -, unread, -⟩ := TelemetrySettings.ratio_held (sampled "half")
  exact ⟨endless, infinite false endless, word, unread word⟩

/-- The text `nan` makes the share no fraction, and the sampler goes by it as it is. -/
theorem nan_ratio_unheld :
    (TelemetrySettings.ofEnvironment (sampled "nan")).samplingRatio = .nan ∧
      (∀ r : ℚ, (TelemetrySettings.ofEnvironment (sampled "nan")).samplingRatio.value? ≠ some r) ∧
      Sampler.ofRatio (TelemetrySettings.ofEnvironment (sampled "nan")).samplingRatio =
        .share .nan := by
  have unheld : (TelemetrySettings.ofEnvironment (sampled "nan")).samplingRatio = .nan := by
    decide +kernel
  rw [unheld]
  exact ⟨rfl, fun _ => nofun, by decide⟩

end Sample

end Walkthrough
