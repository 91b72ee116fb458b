import Mathlib.Algebra.Order.Group.Nat
import Walkthrough.Json.Value

/-!
Rounding to a binary64 number. A quotient that is not past the largest magnitude has a nearest one,
so whole numbers of word size stay finite.
-/
namespace Walkthrough

theorem div_le_roundQuotient (n d : Nat) : n / d ≤ roundQuotient n d := by
  unfold roundQuotient
  dsimp only
  split_ifs <;> omega

theorem roundQuotient_le (n d : Nat) : roundQuotient n d ≤ n / d + 1 := by
  unfold roundQuotient
  dsimp only
  split_ifs <;> omega

namespace Magnitude

theorem ofParts?_isSome {significand scale : Nat} (small : significand < 2 ^ 53)
    (scaled : scale ≤ 2045) (full : scale = 0 ∨ 2 ^ 52 ≤ significand) :
    (ofParts? significand scale).isSome = true := by
  unfold ofParts?
  rw [dif_pos ⟨small, scaled, full⟩]
  rfl

/-- How far a whole number is scaled for its significand to be full but within 53 bits. -/
theorem significand_bounds (q : Nat) :
    q / 2 ^ (q.log2 + 1 - 53) < 2 ^ 53 ∧
      (q.log2 + 1 - 53 = 0 ∨ 2 ^ 52 ≤ q / 2 ^ (q.log2 + 1 - 53)) := by
  have above : q < 2 ^ (q.log2 + 1) := Nat.lt_log2_self
  by_cases short : q.log2 + 1 ≤ 53
  · rw [Nat.sub_eq_zero_of_le short]
    have bound : 2 ^ (q.log2 + 1) ≤ 2 ^ 53 := Nat.pow_le_pow_right (by decide) short
    exact ⟨by omega, .inl rfl⟩
  · obtain ⟨k, size⟩ : ∃ k, q.log2 = 52 + k := ⟨q.log2 - 52, by omega⟩
    have scale : q.log2 + 1 - 53 = k := by omega
    have positive : q ≠ 0 := by
      rintro rfl
      exact short (by decide)
    have below : 2 ^ q.log2 ≤ q := Nat.log2_self_le positive
    rw [scale]
    refine ⟨?_, .inr ?_⟩
    · rw [Nat.div_lt_iff_lt_mul (Nat.two_pow_pos k), ← Nat.pow_add]
      exact lt_of_lt_of_eq above (congrArg (2 ^ ·) (by omega))
    · rw [Nat.le_div_iff_mul_le (Nat.two_pow_pos k), ← Nat.pow_add, ← size]
      exact below

theorem nearest?_isSome {n d : Nat} (scaled : (n * unitsInOne / d).log2 < 2097) :
    (nearest? n d).isSome = true := by
  unfold nearest?
  dsimp only
  generalize n * unitsInOne = x at scaled ⊢
  obtain ⟨small, full⟩ := significand_bounds (x / d)
  have quotient : x / (d * twoTo ((x / d).log2 + 1 - 53)) =
      x / d / 2 ^ ((x / d).log2 + 1 - 53) := (Nat.div_div_eq_div_mul ..).symm
  have low := div_le_roundQuotient x (d * twoTo ((x / d).log2 + 1 - 53))
  have high := roundQuotient_le x (d * twoTo ((x / d).log2 + 1 - 53))
  rw [quotient] at low high
  generalize roundQuotient x (d * twoTo ((x / d).log2 + 1 - 53)) = significand at low high ⊢
  generalize x / d / 2 ^ ((x / d).log2 + 1 - 53) = q at low high small full
  split_ifs with fits
  · exact ofParts?_isSome fits (by omega) (by omega)
  · have top : ¬ significand < 2 ^ 53 := fits
    exact ofParts?_isSome (by omega) (by omega) (by omega)

end Magnitude

theorem Magnitude.unitsInOne_eq : ∃ units ≤ 1074, unitsInOne = twoTo units := by
  refine ⟨1074, Nat.le_refl _, ?_⟩
  unfold unitsInOne
  -- Not by evaluation: the power is a large number.
  with_reducible rfl

theorem log2_mul_twoTo_lt {m a : Nat} (small : m < 2 ^ a) (positive : 0 < a) (b : Nat) :
    (m * twoTo b).log2 < a + b := by
  change (m * 2 ^ b).log2 < a + b
  rcases Nat.eq_zero_or_pos m with rfl | some
  · rw [Nat.zero_mul, Nat.log2_zero]
    omega
  · rw [Nat.log2_lt (Nat.mul_pos some (Nat.two_pow_pos b)).ne', Nat.pow_add]
    exact Nat.mul_lt_mul_of_pos_right small (Nat.two_pow_pos b)

theorem nearest_of_fits {n : Int} (fits : FitsWord n) (negative : Bool) :
    ∃ m, Binary64.nearest negative n.natAbs 1 = .finite negative m := by
  have small : n.natAbs < 2 ^ 65 := by
    obtain ⟨low, high⟩ := fits
    omega
  obtain ⟨units, few, inOne⟩ := Magnitude.unitsInOne_eq
  have range : (n.natAbs * Magnitude.unitsInOne / 1).log2 < 2097 := by
    have short := log2_mul_twoTo_lt small (by decide) units
    rw [Nat.div_one, inOne]
    omega
  obtain ⟨m, nearest⟩ := Option.isSome_iff_exists.mp (Magnitude.nearest?_isSome range)
  exact ⟨m, by rw [Binary64.nearest, nearest]; rfl⟩

theorem JsonNumber.toBinary64_finite (n : JsonNumber) :
    ∃ negative m, n.toBinary64 = .finite negative m := by
  cases n with
  | whole n fits =>
    obtain ⟨m, finite⟩ := nearest_of_fits fits (n < 0)
    exact ⟨_, m, finite⟩
  | real negative size => exact ⟨negative, size, rfl⟩

end Walkthrough
