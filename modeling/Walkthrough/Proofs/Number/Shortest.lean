import Mathlib.Tactic.Ring
import Walkthrough.Proofs.Number.Whole

/-!
The fewest digits of whole numbers. Below `2 ^ 53` the reals that round to a whole number contain no
other whole number, so a decimal that reads back as it, on a grid of whole numbers, is the number
itself: its plain notation has exactly its digits.
-/
namespace Walkthrough

namespace Magnitude

variable {m : Magnitude}

structure IsSafe (m : Magnitude) : Prop where
  whole : m.isWhole = true
  small : m.floor < 2 ^ 53

theorem IsSafe.step_le (safe : m.IsSafe) : twoTo m.scale ≤ unitsInOne := by
  obtain ⟨units, -, inOne⟩ := unitsInOne_eq
  obtain ⟨-, -, unscaled | full⟩ := m.fits
  · rw [unscaled]
    exact unitsInOne_pos
  · have long : 2 ^ 52 * 2 ^ m.scale ≤ m.units := Nat.mul_le_mul_right _ full
    have short : m.units < 2 ^ 53 * 2 ^ units := by
      rw [units_of_isWhole safe.whole, inOne]
      exact Nat.mul_lt_mul_of_pos_right safe.small (Nat.two_pow_pos units)
    rw [← Nat.pow_add] at long short
    have exponents := (Nat.pow_lt_pow_iff_right (by decide)).mp (Nat.lt_of_le_of_lt long short)
    rw [inOne]
    exact Nat.pow_le_pow_right (by decide) (by omega)

/-- On a grid of whole numbers only the number itself rounds to it. -/
theorem IsSafe.eq_of_roundsFrom (safe : m.IsSafe) {k n : Nat} (rounds : m.roundsFrom k n = true) :
    n * 10 ^ k = m.floor := by
  have step := safe.step_le
  have units := units_of_isWhole safe.whole
  have positive := unitsInOne_pos
  have bounds : m.roundingLow ≤ n * 10 ^ k * (4 * unitsInOne) ∧
      n * 10 ^ k * (4 * unitsInOne) ≤ m.roundingHigh := by
    simp only [roundsFrom, Int.toNat_natCast, Int.toNat_neg_natCast, Nat.pow_eq, Nat.pow_zero,
      Nat.mul_one] at rounds
    split at rounds
    · exact of_decide_eq_true rounds
    · exact (of_decide_eq_true rounds).imp Nat.le_of_lt Nat.le_of_lt
  have low : m.quarters ≤ m.roundingLow + 2 * twoTo m.scale := by
    unfold roundingLow
    split <;> omega
  have high : m.roundingHigh = m.quarters + 2 * twoTo m.scale := rfl
  rw [quarters, units] at low high
  -- Both ends of the rounding interval are at most half a unit away.
  have above : (4 * (n * 10 ^ k)) * unitsInOne ≤ (4 * m.floor + 2) * unitsInOne := by
    nlinarith only [bounds, high, step]
  have below : (4 * m.floor) * unitsInOne ≤ (4 * (n * 10 ^ k) + 2) * unitsInOne := by
    nlinarith only [bounds, low, step]
  have := Nat.le_of_mul_le_mul_right above positive
  have := Nat.le_of_mul_le_mul_right below positive
  omega

theorem roundsFrom_floor (whole : m.isWhole = true) (positive : 0 < m.floor) :
    m.roundsFrom (0 : Nat) m.floor = true := by
  have step : 0 < twoTo m.scale := Nat.two_pow_pos m.scale
  have here : m.floor * (4 * unitsInOne) = m.quarters := by
    rw [quarters, units_of_isWhole whole]
    ring
  have some_ : 0 < m.quarters := by
    rw [← here]
    exact Nat.mul_pos positive (Nat.mul_pos (by decide) unitsInOne_pos)
  have low : m.roundingLow < m.quarters := by
    unfold roundingLow
    split <;> omega
  have high : m.quarters < m.roundingHigh := by
    unfold roundingHigh
    omega
  simp only [roundsFrom, Int.toNat_natCast, Int.toNat_neg_natCast, Nat.pow_eq, Nat.pow_zero,
    Nat.mul_one, here]
  split
  · exact decide_eq_true ⟨low.le, high.le⟩
  · exact decide_eq_true ⟨low, high⟩

theorem roundsFrom_of_onGrid? {power : Int} {n : Nat} (found : m.onGrid? power = some n) :
    m.roundsFrom power n = true := by
  unfold onGrid? at found
  dsimp only at found
  split at found
  · rename_i below above
    simp only [Bool.and_eq_true] at below
    split_ifs at found <;> cases found
    · exact below.1
    · exact above
    · exact below.1
    · exact above
  · rename_i below above
    simp only [Bool.and_eq_true] at below
    cases found
    exact below.1
  · rename_i below above
    cases found
    exact above
  · cases found

theorem onGrid?_zero (whole : m.isWhole = true) (positive : 0 < m.floor) :
    ∃ n, m.onGrid? (0 : Nat) = some n := by
  have below : m.units * tenTo 0 / (unitsInOne * tenTo 0) = m.floor := by
    simp [floor]
  have rounds : (m.roundsFrom (0 : Nat) m.floor && m.floor != 0) = true := by
    rw [roundsFrom_floor whole positive, Bool.true_and, bne_iff_ne]
    exact positive.ne'
  unfold onGrid?
  simp only [scaleByTen, Int.toNat_natCast, Int.toNat_neg_natCast, below, rounds]
  cases m.roundsFrom (0 : Nat) (m.floor + 1) with
  | false => exact ⟨_, rfl⟩
  | true =>
    dsimp only
    split_ifs <;> exact ⟨_, rfl⟩

theorem IsSafe.shortestFrom_value (safe : m.IsSafe) (positive : 0 < m.floor) {k tries : Nat}
    (enough : k < tries) : ∃ j : Nat, (m.shortestFrom k tries).power = j ∧
      (m.shortestFrom k tries).digits * 10 ^ j = m.floor := by
  induction tries generalizing k with
  | zero => omega
  | succ tries ih =>
    rw [shortestFrom]
    cases found : m.onGrid? k with
    | some n => exact ⟨k, rfl, safe.eq_of_roundsFrom (roundsFrom_of_onGrid? found)⟩
    | none =>
      cases k with
      | zero =>
        obtain ⟨n, some_⟩ := onGrid?_zero safe.whole positive
        cases found.symm.trans some_
      | succ k =>
        have finer : ((k + 1 : Nat) : Int) - 1 = k := by omega
        dsimp only
        rw [finer]
        exact ih (by omega)

theorem unitsInOne_eq_twoTo : ∃ units, units = 1074 ∧ unitsInOne = twoTo units := by
  refine ⟨1074, rfl, ?_⟩
  unfold unitsInOne
  with_reducible rfl

theorem IsSafe.leadingPower_le (safe : m.IsSafe) (positive : 0 < m.floor) :
    ∃ k : Nat, k ≤ 16 ∧ m.leadingPower = k := by
  obtain ⟨units, exponent, inOne⟩ := unitsInOne_eq_twoTo
  have value := units_of_isWhole safe.whole
  have one : unitsInOne ≤ m.units := by
    rw [value]
    exact Nat.le_mul_of_pos_left _ positive
  have long : units ≤ m.units.log2 := by
    rw [Nat.le_log2 (Nat.lt_of_lt_of_le unitsInOne_pos one).ne']
    exact Nat.le_trans (Nat.le_of_eq inOne.symm) one
  have short : m.units.log2 < 53 + units := by
    rw [value, inOne]
    exact log2_mul_twoTo_lt safe.small (by decide) units
  obtain ⟨guess, few, guessed⟩ : ∃ guess : Nat, guess ≤ 15 ∧
      ((m.units.log2 : Int) - 1074) * 30103 / 100000 = guess :=
    ⟨(((m.units.log2 : Int) - 1074) * 30103 / 100000).toNat, by omega, by omega⟩
  unfold leadingPower
  dsimp only
  rw [guessed]
  split
  · exact ⟨guess + 1, by omega, rfl⟩
  · split
    · exact ⟨guess, by omega, rfl⟩
    · rename_i coarse
      cases guess with
      | zero => exact absurd (decide_eq_true (by simpa using one)) coarse
      | succ guess => exact ⟨guess, by omega, by omega⟩

theorem IsSafe.shortest_value (safe : m.IsSafe) : ∃ j : Nat, m.shortest.power = j ∧
    m.shortest.digits * 10 ^ j = m.floor := by
  have zero := isZero_iff_floor safe.whole
  unfold shortest
  split
  · rename_i none
    exact ⟨0, rfl, (zero.mp none).symm⟩
  · rename_i some_
    have positive : 0 < m.floor := Nat.pos_of_ne_zero fun none => some_ (zero.mpr none)
    obtain ⟨k, few, leading⟩ := safe.leadingPower_le positive
    rw [leading]
    exact safe.shortestFrom_value positive (by omega)

end Magnitude

theorem decimalDigits_mul_pow {n : Nat} (positive : 0 < n) (k : Nat) :
    decimalDigits (n * 10 ^ k) = decimalDigits n ++ List.replicate k '0' := by
  have digits (n : Nat) : decimalDigits n = Nat.toDigits 10 n := by
    rw [decimalDigits, Nat.repr_eq_ofList_toDigits, String.toList_ofList]
  induction k with
  | zero => simp
  | succ k ih =>
    have more := Nat.toDigits_append_toDigits (b := 10) (d := 0) (by decide)
      (Nat.mul_pos positive (Nat.pow_pos (n := k) (by decide : 0 < 10))) (by decide)
    calc decimalDigits (n * 10 ^ (k + 1))
        = Nat.toDigits 10 (10 * (n * 10 ^ k) + 0) := by
          rw [digits, Nat.pow_succ]
          congr 1
          ring
      _ = decimalDigits (n * 10 ^ k) ++ ['0'] := by rw [← more, digits, Nat.toDigits_zero]
      _ = decimalDigits n ++ List.replicate (k + 1) '0' := by
          rw [ih, List.replicate_succ', List.append_assoc]

namespace Decimal

theorem trim_value (d : Decimal) (steps : Nat) {j : Nat} (power : d.power = j) :
    ∃ i : Nat, (d.trim steps).power = i ∧
      (d.trim steps).digits * 10 ^ i = d.digits * 10 ^ j := by
  induction steps generalizing d j with
  | zero => exact ⟨j, power, rfl⟩
  | succ steps ih =>
    rw [trim]
    split
    · rename_i round
      obtain ⟨i, power', value⟩ := ih ⟨d.digits / 10, d.power + 1⟩ (j := j + 1) (by
        rw [power]
        rfl)
      refine ⟨i, power', value.trans ?_⟩
      have tens : d.digits / 10 * 10 = d.digits := by omega
      rw [Nat.pow_succ', ← Nat.mul_assoc, tens]
    · exact ⟨j, power, rfl⟩

theorem plain_of_whole (d : Decimal) {j : Nat} (power : d.power = j) :
    d.plain = decimalDigits (d.digits * 10 ^ j) := by
  obtain ⟨i, power', value⟩ := d.trim_value 25 power
  unfold plain
  dsimp only
  rw [power', ← value]
  split
  · rename_i none
    rw [none, Nat.zero_mul]
    rfl
  · rename_i some_
    obtain ⟨c, rest, written, -⟩ := Json.decimalDigits_cons (d.trim 25).digits
    rw [decimalDigits_mul_pow (Nat.pos_of_ne_zero some_)]
    unfold positional
    rw [if_neg (by rw [written]; simp; omega), if_neg (by omega), List.append_nil]
    congr
    omega

end Decimal

theorem Binary64.plain_of_isSafe {m : Magnitude} (safe : m.IsSafe) (negative : Bool) :
    (Binary64.finite negative m).plain = signChars negative ++ decimalDigits m.floor := by
  obtain ⟨j, power, value⟩ := safe.shortest_value
  rw [plain, Decimal.plain_of_whole _ power, value]

end Walkthrough
