import Walkthrough.Document.Case
import Walkthrough.Proofs.Number.Shortest

/-!
The plain text of whole binary64 numbers. It is always a decimal integer. While the number fits a
signed word of 64 bits the text reads back as the number; past the word's end it is the text of that
end, whatever the number.
-/
namespace Walkthrough

def Binary64.unsignedZero : Binary64 → Binary64
  | .finite negative m => .finite (negative && !m.isZero) m
  | x => x

def Magnitude.signedFloor (negative : Bool) (m : Magnitude) : Int :=
  if negative then -(m.floor : Int) else m.floor

def heldInWord (n : Int) : Int := max (-2 ^ 63) (min n (2 ^ 63 - 1))

theorem toString_signed {negative : Bool} {n : Nat} (signed : negative = true → 0 < n) :
    String.ofList (Binary64.signChars negative ++ decimalDigits n) =
      toString (if negative then -(n : Int) else n) := by
  cases negative with
  | false => exact String.ofList_toList
  | true =>
    obtain ⟨k, rfl⟩ : ∃ k, n = k + 1 := ⟨n - 1, by have := signed rfl; omega⟩
    apply String.toList_inj.mp
    exact String.toList_ofList.trans (String.toList_append (s := "-")).symm

namespace Json

structure WholeBelowBound (size : Magnitude) : Prop where
  whole : size.isWhole = true
  small : size.floor < 10 ^ 21

def real (negative : Bool) (size : Magnitude) : Json := .number (.real negative size)

/-- What the plain text of a whole binary64 number says of it. -/
structure SpellsWhole (negative : Bool) (size : Magnitude) (text : String) : Prop where
  integer : text = toString (heldInWord (size.signedFloor negative))
  /-- A number of at most 53 bits has the text that its fewest digits give. -/
  fewest : size.floor < 2 ^ 53 →
    text.toList = (Binary64.finite negative size).unsignedZero.plain
  readsBack : size.floor ≤ 2 ^ 63 →
    Binary64.ofText? text = some (Binary64.finite negative size).unsignedZero
  distinct : size.floor ≤ 2 ^ 63 → ∀ negative' size', WholeBelowBound size' →
    size'.floor ≤ 2 ^ 63 → (real negative' size').plain = text →
      (Binary64.finite negative' size').unsignedZero = (Binary64.finite negative size).unsignedZero
  /-- Past the end of a word the text is that of the end, and reads as another number. -/
  held : 2 ^ 63 < size.floor →
    text = toString (if negative then -2 ^ 63 else 2 ^ 63 - 1 : Int) ∧
      Binary64.ofText? text ≠ some (.finite negative size)
  /-- The text is what a step types, and what a validation compares with. -/
  typed : ∀ s : Step, s.data = some (real negative size) → s.dataText = text
  compared : ∀ v : Validation, v.data = some (real negative size) → v.dataText = text

def wordEnd (negative : Bool) : Nat := if negative then 2 ^ 63 else 2 ^ 63 - 1

variable {negative : Bool} {size : Magnitude}

theorem wordText_eq (negative : Bool) (n : Nat) : wordText negative n =
    Binary64.signChars (negative && n != 0) ++ decimalDigits (min n (wordEnd negative)) := by
  unfold wordText
  split
  · rename_i none
    subst none
    rw [Nat.zero_min, bne_self_eq_false, Bool.and_false]
    rfl
  · rename_i some_
    rw [bne_iff_ne.mpr some_, Bool.and_true]
    cases negative <;> rfl

theorem plain_number (n : JsonNumber) : (Json.number n).plain = String.ofList (plainNumber n) :=
  rfl

theorem plain_real (h : WholeBelowBound size) : (real negative size).plain =
    String.ofList (Binary64.signChars (negative && size.floor != 0) ++
      decimalDigits (min size.floor (wordEnd negative))) := by
  have bound : plainWholeBound = 10 ^ 21 := rfl
  have small : size.floor < plainWholeBound := by
    rw [bound]
    exact h.small
  rw [real, plain_number, plainNumber, if_pos ⟨h.whole, small⟩, wordText_eq]

theorem unsignedZero_finite (whole : size.isWhole = true) :
    (Binary64.finite negative size).unsignedZero =
      .finite (negative && size.floor != 0) size := by
  have zero : size.isZero = (size.floor == 0) :=
    Bool.eq_iff_iff.mpr ((Magnitude.isZero_iff_floor whole).trans beq_iff_eq.symm)
  rw [Binary64.unsignedZero, zero]
  rfl

theorem plain_real_integer (h : WholeBelowBound size) :
    (real negative size).plain = toString (heldInWord (size.signedFloor negative)) := by
  have signed : (negative && size.floor != 0) = true → 0 < min size.floor (wordEnd negative) := by
    intro shown
    rw [Bool.and_eq_true, bne_iff_ne] at shown
    rw [shown.1]
    exact Nat.lt_min.mpr ⟨Nat.pos_of_ne_zero shown.2, by decide⟩
  rw [plain_real h, toString_signed signed]
  congr 1
  unfold heldInWord Magnitude.signedFloor wordEnd
  cases negative with
  | false =>
    simp only [Bool.false_and, Bool.false_eq_true, if_false]
    omega
  | true =>
    by_cases zero : size.floor = 0
    · simp [zero]
    · simp only [Bool.true_and, bne_iff_ne, ne_eq, zero, not_false_eq_true, if_true]
      omega

theorem nearest?_wordEnd (negative : Bool) : Magnitude.nearest? (wordEnd negative) 1 =
    Magnitude.nearest? (2 ^ 63) 1 := by
  cases negative with
  | false => decide +kernel
  | true => rfl

theorem ofText?_plain_real (h : WholeBelowBound size) (some_ : size.floor ≠ 0) :
    Binary64.ofText? (real negative size).plain =
      some (Binary64.nearest negative (min size.floor (wordEnd negative)) 1) := by
  have positive : 0 < min size.floor (wordEnd negative) :=
    Nat.lt_min.mpr ⟨Nat.pos_of_ne_zero some_, by cases negative <;> decide⟩
  have short : min size.floor (wordEnd negative) < 10 ^ 100 :=
    Nat.lt_of_le_of_lt (Nat.min_le_left ..)
      (Nat.lt_trans h.small (Nat.pow_lt_pow_right (by decide) (by decide)))
  rw [plain_real h, Binary64.ofText?_signed, bne_iff_ne.mpr some_, Bool.and_true,
    Binary64.ofDecimal_whole negative positive short]

theorem plain_real_readsBack (h : WholeBelowBound size) (fits : size.floor ≤ 2 ^ 63) :
    Binary64.ofText? (real negative size).plain =
      some (Binary64.finite negative size).unsignedZero := by
  rw [unsignedZero_finite h.whole]
  by_cases zero : size.floor = 0
  · obtain rfl := Magnitude.eq_zero_of_isZero ((Magnitude.isZero_iff_floor h.whole).mpr zero)
    rw [plain_real h, Binary64.ofText?_signed, zero]
    cases negative <;> rfl
  · have nearest : Magnitude.nearest? (min size.floor (wordEnd negative)) 1 = some size := by
      rw [← Magnitude.nearest?_floor h.whole]
      rcases Nat.lt_or_ge (wordEnd negative) size.floor with past | within
      · have end_ : size.floor = 2 ^ 63 := by
          unfold wordEnd at past
          split at past <;> omega
        rw [Nat.min_eq_right past.le, nearest?_wordEnd, end_]
      · rw [Nat.min_eq_left within]
    rw [ofText?_plain_real h zero, Binary64.nearest, nearest, bne_iff_ne.mpr zero, Bool.and_true]
    rfl

theorem plain_real_held (h : WholeBelowBound size) (past : 2 ^ 63 < size.floor) :
    (real negative size).plain = toString (if negative then -2 ^ 63 else 2 ^ 63 - 1 : Int) ∧
      Binary64.ofText? (real negative size).plain ≠ some (.finite negative size) := by
  have held : min size.floor (wordEnd negative) = wordEnd negative := by
    apply Nat.min_eq_right
    unfold wordEnd
    split <;> omega
  constructor
  · rw [plain_real_integer h]
    congr 1
    unfold heldInWord Magnitude.signedFloor
    split <;> omega
  · intro same
    rw [ofText?_plain_real h (by omega), held, Binary64.nearest, nearest?_wordEnd] at same
    have end_ : Magnitude.nearest? (2 ^ 63) 1 = some ⟨2 ^ 52, 1085, by decide⟩ := by decide +kernel
    rw [end_, Binary64.ofMagnitude?, Option.some.injEq, Binary64.finite.injEq] at same
    have floor : size.floor = 2 ^ 63 := by
      rw [← same.2]
      decide +kernel
    omega

theorem plain_real_fewest (h : WholeBelowBound size) (few : size.floor < 2 ^ 53) :
    (real negative size).plain.toList = (Binary64.finite negative size).unsignedZero.plain := by
  have within : min size.floor (wordEnd negative) = size.floor := by
    apply Nat.min_eq_left
    unfold wordEnd
    split <;> omega
  rw [plain_real h, unsignedZero_finite h.whole, Binary64.plain_of_isSafe ⟨h.whole, few⟩,
    String.toList_ofList, within]

/-- The plain text of a whole binary64 number is a decimal integer. It reads back as the number, and
no other number has it, as long as the number fits a signed word. -/
theorem plain_spells_whole (negative : Bool) {size : Magnitude} (h : WholeBelowBound size) :
    SpellsWhole negative size (real negative size).plain where
  integer := plain_real_integer h
  fewest := plain_real_fewest h
  readsBack := plain_real_readsBack h
  distinct fits negative' size' h' fits' same := by
    have reads : Binary64.ofText? (real negative size).plain = _ := plain_real_readsBack h fits
    have reads' : Binary64.ofText? (real negative' size').plain = _ :=
      plain_real_readsBack h' fits'
    rw [same] at reads'
    exact Option.some.inj (reads'.symm.trans reads)
  held := plain_real_held h
  typed s given := by rw [Step.dataText, given, plainOf]
  compared v given := by rw [Validation.dataText, given, plainOf]

namespace Sample

/-- `2 ^ 63`, whose text is one less and still rounds to it. -/
def vast : Magnitude := ⟨2 ^ 52, 1085, by decide⟩

theorem vast_spells_whole : WholeBelowBound vast ∧ vast.floor = 2 ^ 63 ∧
    (real false vast).plain = "9223372036854775807" ∧
      Binary64.ofText? "9223372036854775807" = some (.finite false vast) := by
  have bound : WholeBelowBound vast := ⟨by decide +kernel, by decide +kernel⟩
  have floor : vast.floor = 2 ^ 63 := by decide +kernel
  have text : (real false vast).plain = "9223372036854775807" := by decide +kernel
  have reads := (plain_spells_whole false bound).readsBack floor.le
  exact ⟨bound, floor, text, text ▸ reads⟩

def immense : Magnitude := ⟨6103515625000000, 1088, by decide⟩

/-- Its text reads as another number, which has the same text. -/
theorem immense_misread : WholeBelowBound immense ∧ immense.floor = 10 ^ 20 ∧
    (real false immense).plain = "9223372036854775807" ∧
      Binary64.ofText? (real false immense).plain = some (.finite false vast) ∧
        (real false vast).plain = (real false immense).plain ∧ vast ≠ immense :=
  ⟨⟨by decide +kernel, by decide +kernel⟩, by decide +kernel, by decide +kernel,
    by decide +kernel, by decide +kernel, by decide +kernel⟩

end Sample

end Json

end Walkthrough
