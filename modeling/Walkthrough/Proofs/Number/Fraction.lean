import Mathlib.Algebra.Order.Field.Rat
import Walkthrough.Proofs.Number.Shortest

/-!
The values of binary64 numbers. Finite numbers compare as their values do, so one that is held
between two bounds is held there by value; what is not a number slips through.
-/
namespace Walkthrough

namespace Magnitude

variable {m n : Magnitude}

theorem eq_of_units_eq (same : m.units = n.units) : m = n := by
  have scale : m.scale = n.scale := by rw [← log2_units m, ← log2_units n, same]
  have significand : m.significand = n.significand := by
    rw [units, units, scale] at same
    exact Nat.eq_of_mul_eq_mul_right (Nat.two_pow_pos _) same
  obtain ⟨s, e, fits⟩ := m
  obtain ⟨s', e', fits'⟩ := n
  obtain rfl : s = s' := significand
  obtain rfl : e = e' := scale
  rfl

theorem units_zero : zero.units = 0 := Nat.zero_mul _

/-- The exponents are added up, since the powers are large numbers. -/
theorem units_eq_unitsInOne {k l : Nat} (significand : m.significand = twoTo k)
    (scale : m.scale = l) (all : k + l = 1074) : m.units = unitsInOne := by
  obtain ⟨units, some_, inOne⟩ := unitsInOne_eq_twoTo
  rw [Magnitude.units, significand, scale, inOne, some_, ← all]
  exact (Nat.pow_add 2 k l).symm

end Magnitude

namespace Binary64

variable {x y low high : Binary64} {r s a b : ℚ}

def value? : Binary64 → Option ℚ
  | .finite negative m => some (signedUnits negative m / Magnitude.unitsInOne)
  | .infinite _ | .nan => none

theorem exists_finite (value : x.value? = some r) :
    ∃ negative m, x = .finite negative m ∧ signedUnits negative m / Magnitude.unitsInOne = r := by
  cases x with
  | infinite | nan => cases value
  | finite negative m => exact ⟨negative, m, rfl, Option.some.inj value⟩

theorem value?_zero : value? zero = some 0 := by
  simp only [value?, zero, signedUnits, Magnitude.units_zero, Bool.false_eq_true, if_false,
    Nat.cast_zero, Int.cast_zero, zero_div]

theorem unitsInOne_pos : (0 : ℚ) < Magnitude.unitsInOne :=
  Nat.cast_pos.mpr Magnitude.unitsInOne_pos

theorem value?_one : value? one = some 1 := by
  have units :=
    Magnitude.units_eq_unitsInOne (m := ⟨twoTo 52, 1022, by decide⟩) (k := 52) rfl rfl rfl
  simp only [value?, one, signedUnits, units, Bool.false_eq_true, if_false, Int.cast_natCast,
    div_self unitsInOne_pos.ne']

theorem lt_iff (hx : x.value? = some r) (hy : y.value? = some s) : x.lt y = true ↔ r < s := by
  obtain ⟨p, m, rfl, rfl⟩ := exists_finite hx
  obtain ⟨q, n, rfl, rfl⟩ := exists_finite hy
  rw [div_lt_div_iff_of_pos_right unitsInOne_pos, Int.cast_lt, lt, decide_eq_true_eq]

theorem value_eq_zero_iff {negative : Bool} {m : Magnitude} :
    (signedUnits negative m / Magnitude.unitsInOne : ℚ) = 0 ↔ m = .zero := by
  have size : signedUnits negative m = 0 ↔ m.units = 0 := by
    unfold signedUnits
    split <;> omega
  rw [div_eq_zero_iff, or_iff_left unitsInOne_pos.ne', Int.cast_eq_zero, size]
  constructor
  · intro none
    have zero : m.significand = 0 :=
      (Nat.mul_eq_zero.mp none).resolve_right (Nat.two_pow_pos m.scale).ne'
    exact Magnitude.eq_zero_of_isZero (by simpa [Magnitude.isZero] using zero)
  · rintro rfl
    exact Magnitude.units_zero

theorem eq_zero_iff (hx : x.value? = some r) : r = 0 ↔ x = zero ∨ x = .finite true .zero := by
  obtain ⟨p, m, rfl, rfl⟩ := exists_finite hx
  rw [value_eq_zero_iff]
  cases p <;> simp [zero]

theorem signedUnits_inj {p q : Bool} {m n : Magnitude} (some_ : signedUnits p m ≠ 0)
    (same : signedUnits p m = signedUnits q n) : p = q ∧ m = n := by
  unfold signedUnits at some_ same
  have sign : p = q := by cases p <;> cases q <;> simp at some_ same ⊢ <;> omega
  subst sign
  exact ⟨rfl, Magnitude.eq_of_units_eq (by split at same <;> omega)⟩

theorem eq_of_value?_eq (hx : x.value? = some r) (hy : y.value? = some r) (some_ : r ≠ 0) :
    x = y := by
  obtain ⟨p, m, rfl, rfl⟩ := exists_finite hx
  obtain ⟨q, n, rfl, same⟩ := exists_finite hy
  rw [div_left_inj' unitsInOne_pos.ne', Int.cast_inj] at same
  have nonzero : signedUnits p m ≠ 0 := by
    intro zero
    rw [zero, Int.cast_zero, zero_div] at some_
    exact some_ rfl
  obtain ⟨rfl, rfl⟩ := signedUnits_inj nonzero same.symm
  rfl

theorem value?_clamp (ordered : a ≤ b) (hl : low.value? = some a) (hh : high.value? = some b)
    (hx : x.value? = some r) : (clamp low high x).value? = some (max a (min r b)) := by
  unfold clamp
  by_cases below : r < a
  · rw [if_pos ((lt_iff hx hl).mpr below), hl, max_eq_left (min_le_of_left_le below.le)]
  · rw [if_neg (mt (lt_iff hx hl).mp below)]
    push Not at below
    by_cases above : b < r
    · rw [if_pos ((lt_iff hh hx).mpr above), hh, min_eq_right above.le, max_eq_right ordered]
    · rw [if_neg (mt (lt_iff hh hx).mp above), hx, min_eq_left (not_lt.mp above),
        max_eq_right below]

theorem clamp_infinite (negative : Bool) (hl : low.value? = some a) (hh : high.value? = some b) :
    clamp low high (.infinite negative) = if negative then low else high := by
  obtain ⟨p, m, rfl, -⟩ := exists_finite hl
  obtain ⟨q, n, rfl, -⟩ := exists_finite hh
  cases negative <;> rfl

theorem clamp_nan (low high : Binary64) : clamp low high .nan = .nan := by
  cases low <;> cases high <;> rfl

/-- The word for what is not a number, in any case, with at most a sign before it. -/
def SpellsNan (text : String) : Prop :=
  ∃ sign word, sign ∈ [[], ['+'], ['-']] ∧ text.toList = sign ++ word ∧
    word.map Char.toLower = "nan".toList

theorem ofDecimal_ne_nan (negative : Bool) (digits : Nat) (power : Int) :
    ofDecimal negative digits power ≠ .nan := by
  have rounded : ∀ m, ofMagnitude? negative m ≠ .nan := by rintro (_ | m) <;> nofun
  unfold ofDecimal
  dsimp only
  repeat' split
  · nofun
  · nofun
  · nofun
  · exact rounded _

theorem unsignedOf?_eq_nan_iff (negative : Bool) {cs : List Char} :
    unsignedOf? negative cs = some .nan ↔ cs.map Char.toLower = "nan".toList := by
  unfold unsignedOf?
  dsimp only
  split
  case isTrue infinite =>
    constructor
    · nofun
    · intro nan
      rw [nan] at infinite
      exact absurd infinite (by decide)
  case isFalse =>
    split
    case isTrue nan => exact ⟨fun _ => nan, fun _ => rfl⟩
    case isFalse other =>
      refine ⟨fun read => ?_, fun nan => absurd nan other⟩
      obtain ⟨-, number⟩ := Option.ite_none_left_eq_some.mp read
      obtain ⟨exponent, -, decimal⟩ := Option.map_eq_some_iff.mp number
      exact absurd decimal (ofDecimal_ne_nan _ _ _)

theorem ofText?_eq_nan_iff {text : String} : ofText? text = some .nan ↔ SpellsNan text := by
  unfold ofText? SpellsNan
  constructor
  · intro read
    split at read
    · rename_i rest written
      exact ⟨['-'], rest, by decide, written, (unsignedOf?_eq_nan_iff _).mp read⟩
    · rename_i rest written
      exact ⟨['+'], rest, by decide, written, (unsignedOf?_eq_nan_iff _).mp read⟩
    · exact ⟨[], _, by decide, rfl, (unsignedOf?_eq_nan_iff _).mp read⟩
  · rintro ⟨sign, word, among, written, nan⟩
    rw [written]
    have reads := fun negative => (unsignedOf?_eq_nan_iff negative).mpr nan
    simp only [List.mem_cons, List.not_mem_nil, or_false] at among
    rcases among with rfl | rfl | rfl
    · rw [List.nil_append]
      split
      · exact absurd (List.cons.inj nan).1 (by decide)
      · exact absurd (List.cons.inj nan).1 (by decide)
      · exact reads false
    · exact reads false
    · exact reads true

end Binary64

end Walkthrough
