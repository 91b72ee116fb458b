import Walkthrough.Text.Blank

/-!
Letters and digits as ranges of characters. What can be printed is no blank.
-/
namespace Walkthrough.Text

variable {c : Char}

def IsLetter (c : Char) : Prop := ('A' ≤ c ∧ c ≤ 'Z') ∨ ('a' ≤ c ∧ c ≤ 'z')

theorem isAlpha_iff : c.isAlpha = true ↔ IsLetter c := by
  have upper : c.isUpper = true ↔ 'A' ≤ c ∧ c ≤ 'Z' := decide_eq_true_iff
  have lower : c.isLower = true ↔ 'a' ≤ c ∧ c ≤ 'z' :=
    Bool.and_eq_true_iff.trans (and_congr decide_eq_true_iff decide_eq_true_iff)
  exact Bool.or_eq_true_iff.trans (or_congr upper lower)

theorem isDigit_iff : c.isDigit = true ↔ '0' ≤ c ∧ c ≤ '9' := Char.isDigit_iff_toNat

theorem isAlphanum_iff : c.isAlphanum = true ↔ IsLetter c ∨ ('0' ≤ c ∧ c ≤ '9') :=
  Bool.or_eq_true_iff.trans (or_congr isAlpha_iff isDigit_iff)

theorem isBlank_of_ascii (low : 33 ≤ c.toNat) (high : c.toNat ≤ 126) : isBlank c = false := by
  simp only [isBlank]
  grind

theorem isBlank_of_isDigit (digit : c.isDigit = true) : isBlank c = false := by
  obtain ⟨low, high⟩ : 48 ≤ c.toNat ∧ c.toNat ≤ 57 := Char.isDigit_iff_toNat.mp digit
  exact isBlank_of_ascii (by omega) (by omega)

theorem isBlank_of_toLower (low : 33 ≤ c.toLower.toNat) (high : c.toLower.toNat ≤ 126) :
    isBlank c = false := by
  unfold Char.toLower at low high
  split at low
  case isTrue upper =>
    have first : 65 ≤ c.toNat := UInt32.le_iff_toNat_le.mp upper.1
    have last : c.toNat ≤ 90 := UInt32.le_iff_toNat_le.mp upper.2
    exact isBlank_of_ascii (by omega) (by omega)
  case isFalse other =>
    rw [dif_neg other] at high
    exact isBlank_of_ascii low high

end Walkthrough.Text
