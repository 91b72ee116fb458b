import Mathlib.Data.Nat.Digits.Defs
import Walkthrough.Proofs.Json.Numeral
import Walkthrough.Proofs.Number.Nearest

/-!
Whole binary64 numbers. A value that a magnitude has exactly is rounded to that magnitude, so the
decimal digits of a whole number read back as the number.
-/
namespace Walkthrough

theorem roundQuotient_mul (k : Nat) {d : Nat} (positive : 0 < d) : roundQuotient (k * d) d = k := by
  simp [roundQuotient, Nat.mul_div_cancel k positive, positive]

namespace Magnitude

variable {m : Magnitude}

theorem unitsInOne_pos : 0 < unitsInOne := by
  obtain ⟨units, -, inOne⟩ := unitsInOne_eq
  rw [inOne]
  exact Nat.two_pow_pos units

theorem log2_units (m : Magnitude) : m.units.log2 + 1 - 53 = m.scale := by
  obtain ⟨small, -, full⟩ := m.fits
  have short : m.units.log2 < 53 + m.scale := log2_mul_twoTo_lt small (by decide) m.scale
  rcases full with unscaled | full
  · omega
  · have long : 2 ^ (52 + m.scale) ≤ m.units := by
      rw [Nat.pow_add]
      exact Nat.mul_le_mul_right _ full
    have nonzero : m.units ≠ 0 := (Nat.lt_of_lt_of_le (Nat.two_pow_pos _) long).ne'
    have := (Nat.le_log2 nonzero).mpr long
    omega

theorem nearest?_of_exact {n d : Nat} (positive : 0 < d) (same : n * unitsInOne = m.units * d) :
    nearest? n d = some m := by
  have scaled : m.units * d = m.significand * (d * twoTo m.scale) := by
    rw [units, Nat.mul_assoc, Nat.mul_comm (twoTo m.scale)]
  have divisor : 0 < d * twoTo m.scale := Nat.mul_pos positive (Nat.two_pow_pos _)
  unfold nearest?
  dsimp only
  rw [same, Nat.mul_div_cancel _ positive, log2_units, scaled, roundQuotient_mul _ divisor,
    if_pos m.fits.1]
  exact dif_pos m.fits

theorem units_of_isWhole (whole : m.isWhole = true) : m.units = m.floor * unitsInOne := by
  rw [isWhole, beq_iff_eq] at whole
  exact (Nat.div_mul_cancel (Nat.dvd_of_mod_eq_zero whole)).symm

theorem nearest?_floor (whole : m.isWhole = true) : nearest? m.floor 1 = some m :=
  nearest?_of_exact Nat.one_pos (by rw [units_of_isWhole whole, Nat.mul_one])

theorem isZero_iff_floor (whole : m.isWhole = true) : m.isZero = true ↔ m.floor = 0 := by
  have none : m.units = 0 ↔ m.significand = 0 := by simp [units]
  rw [isZero, beq_iff_eq, ← none, units_of_isWhole whole, Nat.mul_eq_zero]
  simp [unitsInOne_pos.ne']

theorem eq_zero_of_isZero (zero : m.isZero = true) : m = .zero := by
  obtain ⟨significand, scale, fits⟩ := m
  obtain rfl : significand = 0 := by simpa [isZero] using zero
  obtain rfl : scale = 0 := by
    rcases fits.2.2 with unscaled | full
    · exact unscaled
    · exact absurd full (by decide)
  rfl

end Magnitude

namespace Binary64

theorem isDigit_toLower {c : Char} (digit : c.isDigit = true) :
    c.toLower ≠ 'i' ∧ c.toLower ≠ 'n' := by
  have few : ∀ k < 10,
      (Char.ofNat (48 + k)).toLower ≠ 'i' ∧ (Char.ofNat (48 + k)).toLower ≠ 'n' := by decide
  obtain ⟨low, high⟩ : 48 ≤ c.toNat ∧ c.toNat ≤ 57 := Char.isDigit_iff_toNat.mp digit
  have here := few (c.toNat - 48) (by omega)
  rwa [Nat.add_sub_cancel' low, Char.ofNat_toNat] at here

theorem unsignedOf?_decimalDigits (negative : Bool) (n : Nat) :
    unsignedOf? negative (decimalDigits n) = some (ofDecimal negative n 0) := by
  obtain ⟨c, rest, written, digit⟩ := Json.decimalDigits_cons n
  obtain ⟨noInfinity, noNan⟩ := isDigit_toLower digit
  have digits : takeDigits (decimalDigits n) = (Json.digitValues n, []) :=
    takeDigits_of_isDigit Json.decimalDigits_isDigit
  have value : digitsValue (Json.digitValues n) = n := Json.digitsValue_decimalDigits n
  have some_ : (Json.digitValues n).isEmpty = false := by simp [Json.digitValues, written]
  unfold unsignedOf?
  rw [digits]
  simp [written, noInfinity, noNan, some_, exponentOf?, value]

theorem ofText?_signed (negative : Bool) (n : Nat) :
    ofText? (String.ofList (signChars negative ++ decimalDigits n)) =
      some (ofDecimal negative n 0) := by
  obtain ⟨c, rest, written, digit⟩ := Json.decimalDigits_cons n
  have signless : c ≠ '-' ∧ c ≠ '+' := by
    constructor <;> rintro rfl <;> exact absurd digit (by decide)
  have reads := unsignedOf?_decimalDigits negative n
  unfold ofText?
  rw [String.toList_ofList, written]
  rw [written] at reads
  cases negative with
  | true => exact reads
  | false =>
    simp only [signChars, Bool.false_eq_true, if_false, List.nil_append]
    split
    · rename_i minus
      exact absurd (List.cons.inj minus).1 signless.1
    · rename_i plus
      exact absurd (List.cons.inj plus).1 signless.2
    · exact reads

theorem ofDecimal_whole (negative : Bool) {n : Nat} (positive : 0 < n) (short : n < 10 ^ 100) :
    ofDecimal negative n 0 = nearest negative n 1 := by
  have length : (decimalDigits n).length ≤ 100 := Nat.repr_length n 100 (by decide) short
  rw [ofDecimal, if_neg positive.ne', if_neg (by omega), if_neg (by omega)]
  simp

end Binary64

end Walkthrough
