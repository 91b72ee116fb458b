import Mathlib.Algebra.Order.Group.Nat
import Walkthrough.Proofs.Json.Numeral
import Walkthrough.Proofs.Report.Calendar
import Walkthrough.Proofs.Text.Trim

/-!
Moments are read from the text that they are written as, and whatever is read can be written so. A
moment that is written as a text must be in a year that is reckoned with, and may be within a leap
second only at the end of a minute.
-/
namespace Walkthrough.Timestamp

open Json (decimalDigits_isDigit decimalDigits_cons digitsValue_decimalDigits)
open Text (isBlank_of_isDigit trimStart_cons)

/-- The moments that have a text of their own. -/
structure Sound (t : Timestamp) : Prop where
  year : CivilDate.hasYear (CivilDate.ofDays (t.seconds / 86400)).year = true
  leap : 1000000000 ≤ t.nanos → t.seconds % 60 = 59

instance (t : Timestamp) : Decidable t.Sound :=
  decidable_of_iff (CivilDate.hasYear (CivilDate.ofDays (t.seconds / 86400)).year = true ∧
      (1000000000 ≤ t.nanos → t.seconds % 60 = 59))
    ⟨fun ⟨year, leap⟩ => ⟨year, leap⟩, fun sound => ⟨sound.year, sound.leap⟩⟩

def valueOf (ds : List Char) : Nat := Binary64.digitsValue (ds.filterMap digitOf?)

theorem padded_isDigit {width n : Nat} : ∀ c ∈ padded width n, c.isDigit = true := by
  intro c member
  rcases List.mem_append.mp member with zero | digit
  · rw [List.eq_of_mem_replicate zero]
    decide
  · exact decimalDigits_isDigit c digit

theorem padded_length {width n : Nat} (positive : 0 < width) (small : n < 10 ^ width) :
    (padded width n).length = width := by
  have short : (decimalDigits n).length ≤ width := by
    rw [decimalDigits, Nat.repr_eq_ofList_toDigits, String.toList_ofList]
    exact (Nat.length_toDigits_le_iff (by decide) positive).mpr small
  simp only [padded, List.length_append, List.length_replicate]
  omega

theorem padded_cons (width n : Nat) :
    ∃ c rest, padded width n = c :: rest ∧ c.isDigit = true := by
  cases written : padded width n with
  | nil =>
    obtain ⟨c, rest, digits, -⟩ := decimalDigits_cons n
    simp [padded, digits] at written
  | cons c rest => exact ⟨c, rest, rfl, padded_isDigit c (written ▸ List.mem_cons_self)⟩

theorem padded_ne_nil (width n : Nat) : padded width n ≠ [] := by
  obtain ⟨c, rest, written, -⟩ := padded_cons width n
  simp [written]

theorem valueOf_padded (width n : Nat) : valueOf (padded width n) = n := by
  have zeros (count : Nat) (ds : List Nat) :
      Binary64.digitsValue (List.replicate count 0 ++ ds) = Binary64.digitsValue ds := by
    induction count with
    | zero => rfl
    | succ count ih => exact ih
  have values : (decimalDigits n).filterMap digitOf? =
      (decimalDigits n).map fun c => c.toNat - '0'.toNat := by
    rw [← List.filterMap_eq_map]
    exact List.filterMap_congr fun c member => digitOf?_of_isDigit (decimalDigits_isDigit c member)
  have zero : digitOf? '0' = some 0 := rfl
  rw [valueOf, padded, List.filterMap_append, List.filterMap_replicate_of_some zero, zeros, values,
    digitsValue_decimalDigits]

theorem takeNumber_append {width : Nat} {ds rest : List Char} (some_ : ds ≠ [])
    (digits : ∀ c ∈ ds, c.isDigit = true) (fits : ds.length ≤ width)
    (ends : ds.length = width ∨ ∀ c ∈ rest.head?, c.isDigit = false)
    (small : valueOf ds ≤ 9223372036854775807) :
    takeNumber width (ds ++ rest) = .ok (valueOf ds, rest) := by
  have taken : ((ds ++ rest).take width).takeWhile Char.isDigit = ds := by
    rw [List.take_append, List.take_of_length_le fits, List.takeWhile_append_of_pos digits]
    suffices stopped : (rest.take (width - ds.length)).takeWhile Char.isDigit = [] by
      rw [stopped, List.append_nil]
    rcases ends with full | ends
    · simp [full]
    · cases rest with
      | nil => simp
      | cons c more =>
        have stops : c.isDigit = false := ends c rfl
        cases width - ds.length <;> simp [stops]
  have number : ds.isEmpty = false := by simpa using some_
  have value : valueOf ds = Binary64.digitsValue (ds.filterMap digitOf?) := rfl
  rw [takeNumber, taken, number, ← value, if_neg (Nat.not_lt.mpr small)]
  simp

theorem takeNumber_padded {width n : Nat} {rest : List Char} (positive : 0 < width)
    (small : n < 10 ^ width) (word : n ≤ 9223372036854775807) :
    takeNumber width (padded width n ++ rest) = .ok (n, rest) := by
  have length := padded_length positive small
  have read : takeNumber width (padded width n ++ rest) = .ok (valueOf (padded width n), rest) :=
    takeNumber_append (padded_ne_nil width n) padded_isDigit (Nat.le_of_eq length) (.inl length)
      (by rwa [valueOf_padded])
  rwa [valueOf_padded] at read

theorem trimStart_padded (width n : Nat) (rest : List Char) :
    Text.trimStart (padded width n ++ rest) = padded width n ++ rest := by
  obtain ⟨c, more, written, digit⟩ := padded_cons width n
  rw [written]
  exact trimStart_cons (isBlank_of_isDigit digit) _

theorem takeField_padded {low high n : Nat} (within : low ≤ n ∧ n ≤ high) (small : n < 100)
    (rest : List Char) : takeField low high (padded 2 n ++ rest) = .ok (n, rest) := by
  have word : n ≤ 9223372036854775807 := by omega
  simp only [takeField, trimStart_padded, takeNumber_padded (by decide : 0 < 2) small word, bind,
    Except.bind, within, and_self, if_true]
  rfl

theorem takeMark_cons {mark : Char} (solid : Text.isBlank mark = false) (rest : List Char) :
    takeMark mark (mark :: rest) = .ok rest := by
  simp [takeMark, trimStart_cons solid]

theorem takeNumber_wide {width pad n : Nat} {c : Char} {rest : List Char}
    (fits : (padded pad n).length ≤ width) (ends : c.isDigit = false)
    (word : n ≤ 9223372036854775807) :
    takeNumber width (padded pad n ++ c :: rest) = .ok (n, c :: rest) := by
  have read : takeNumber width (padded pad n ++ c :: rest) =
      .ok (valueOf (padded pad n), c :: rest) :=
    takeNumber_append (padded_ne_nil pad n) padded_isDigit fits (.inr (by simpa using ends))
      (by rwa [valueOf_padded])
  rwa [valueOf_padded] at read

theorem takeYear_yearChars {year : Int} (has : CivilDate.hasYear year = true) (rest : List Char) :
    takeYear (yearChars year ++ '-' :: rest) = .ok (year, '-' :: rest) := by
  have bounds : -262143 ≤ year ∧ year ≤ 262142 := by simpa [CivilDate.hasYear] using has
  have inside : -2147483648 ≤ year ∧ year ≤ 2147483647 := by omega
  unfold yearChars
  split
  · next plain =>
    have whole : (year.toNat : Int) = year := Int.toNat_of_nonneg plain.1
    have read : takeNumber 4 (padded 4 year.toNat ++ '-' :: rest) =
        .ok (year.toNat, '-' :: rest) := takeNumber_padded (by decide) (by omega) (by omega)
    obtain ⟨c, more, written, digit⟩ := padded_cons 4 year.toNat
    have unsigned : c ≠ '-' ∧ c ≠ '+' := by
      constructor <;> rintro rfl <;> revert digit <;> decide
    rw [written, List.cons_append] at read ⊢
    simp only [takeYear, trimStart_cons (isBlank_of_isDigit digit)]
    split
    · next same => exact absurd (List.cons.inj same).1 unsigned.1
    · next same => exact absurd (List.cons.inj same).1 unsigned.2
    · simp only [read, bind, Except.bind, whole, inside, and_self, if_true, pure, Except.pure]
  · next signed =>
    have read : takeNumber (padded 4 year.natAbs ++ '-' :: rest).length
        (padded 4 year.natAbs ++ '-' :: rest) = .ok (year.natAbs, '-' :: rest) :=
      takeNumber_wide (by simp) rfl (by omega)
    split
    · next negative =>
      have sign : -(year.natAbs : Int) = year := by omega
      simp only [takeYear, List.cons_append, trimStart_cons (by decide : Text.isBlank '-' = false),
        read, bind, Except.bind, sign, inside, and_self, if_true, pure, Except.pure]
    · next positive =>
      have sign : (year.natAbs : Int) = year := by omega
      simp only [takeYear, List.cons_append, trimStart_cons (by decide : Text.isBlank '+' = false),
        read, bind, Except.bind, sign, inside, and_self, if_true, pure, Except.pure]

theorem takeNanos_padded {width n : Nat} (positive : 0 < width) (narrow : width ≤ 9)
    (small : n < 10 ^ width) (word : n ≤ 9223372036854775807) :
    takeNanos ('.' :: (padded width n ++ ['Z'])) = .ok (n * tenTo (9 - width), ['Z']) := by
  have length := padded_length positive small
  have read : takeNumber 9 (padded width n ++ ['Z']) = .ok (n, ['Z']) :=
    takeNumber_wide (by rwa [length]) rfl word
  have consumed : (padded width n ++ ['Z']).length - ['Z'].length = width := by
    simp [length]
  simp only [takeNanos, read, bind, Except.bind, consumed]
  rfl

theorem takeNanos_fractionChars {nanos : Nat} (small : nanos < 1000000000) :
    takeNanos (fractionChars nanos ++ ['Z']) = .ok (nanos, ['Z']) := by
  unfold fractionChars
  split
  · next none =>
    subst none
    rfl
  · split
    · next millis =>
      have whole : nanos / 1000000 * tenTo (9 - 3) = nanos :=
        Nat.div_mul_cancel (Nat.dvd_of_mod_eq_zero millis)
      rw [List.cons_append, takeNanos_padded (by decide) (by decide) (by omega) (by omega), whole]
    · split
      · next micros =>
        have whole : nanos / 1000 * tenTo (9 - 6) = nanos :=
          Nat.div_mul_cancel (Nat.dvd_of_mod_eq_zero micros)
        rw [List.cons_append, takeNanos_padded (by decide) (by decide) (by omega) (by omega), whole]
      · rw [List.cons_append, takeNanos_padded (by decide) (by decide) (by omega) (by omega)]
        exact congrArg (fun n => Except.ok (n, ['Z'])) (Nat.mul_one nanos)

theorem ofFields_parts {t : Timestamp} (sound : t.Sound) {days : Int} {second : Nat}
    (day : days = t.seconds / 86400) (timeOfDay : second = (t.seconds - days * 86400).toNat) :
    ofFields (CivilDate.ofDays days) (second / 3600) (second / 60 % 60)
      (second % 60 + t.nanos / 1000000000) (t.nanos % 1000000000) 0 = .ok t := by
  have valid : (CivilDate.ofDays days).isValid = true := by
    rw [day]
    exact CivilDate.ofDays_isValid sound.year
  have bound := t.nanos_lt
  have leap := sound.leap
  have marked : (if second % 60 + t.nanos / 1000000000 = 60 then 1 else 0) =
      t.nanos / 1000000000 := by
    split <;> omega
  have nanos : t.nanos % 1000000000 + t.nanos / 1000000000 * 1000000000 = t.nanos := by omega
  have seconds : days * 86400 + (second / 3600 * 3600 + second / 60 % 60 * 60 +
      (second % 60 + t.nanos / 1000000000 - t.nanos / 1000000000) : Nat) - 0 = t.seconds := by
    omega
  simp only [ofFields, valid, CivilDate.toDays_ofDays, marked, nanos, seconds, sound.year, bound,
    Int.natAbs_zero, Nat.reduceLT, and_self, if_true, Bool.not_true, Bool.false_eq_true, if_false,
    dite_true]

theorem parse_text {t : Timestamp} (sound : t.Sound) : parse t.text = .ok t := by
  obtain ⟨days, day⟩ : ∃ days, days = t.seconds / 86400 := ⟨_, rfl⟩
  obtain ⟨second, timeOfDay⟩ : ∃ second, second = (t.seconds - days * 86400).toNat := ⟨_, rfl⟩
  have has : CivilDate.hasYear (CivilDate.ofDays days).year = true := day ▸ sound.year
  obtain ⟨month, date⟩ := CivilDate.isValid_bounds (CivilDate.ofDays_isValid has)
  have nanos := t.nanos_lt
  have leap := sound.leap
  have again := ofFields_parts sound day timeOfDay
  have written : t.text.toList = yearChars (CivilDate.ofDays days).year ++ '-' ::
      (padded 2 (CivilDate.ofDays days).month ++ '-' :: (padded 2 (CivilDate.ofDays days).day ++
      'T' :: (padded 2 (second / 3600) ++ ':' :: (padded 2 (second / 60 % 60) ++ ':' ::
      (padded 2 (second % 60 + t.nanos / 1000000000) ++
        (fractionChars (t.nanos % 1000000000) ++ ['Z'])))))) := by
    rw [text, String.toList_ofList, chars, ← day, ← timeOfDay]
  have hyphen : Text.isBlank '-' = false := by decide
  have colon : Text.isBlank ':' = false := by decide
  have hour : 0 ≤ second / 3600 ∧ second / 3600 ≤ 23 := by omega
  have minute : 0 ≤ second / 60 % 60 ∧ second / 60 % 60 ≤ 59 := by omega
  have last : 0 ≤ second % 60 + t.nanos / 1000000000 ∧
      second % 60 + t.nanos / 1000000000 ≤ 60 := by omega
  have fraction : t.nanos % 1000000000 < 1000000000 := Nat.mod_lt _ (by decide)
  have utc : takeOffset (Text.trimStart ['Z']) = .ok (0, []) := rfl
  simp only [parse, written, takeYear_yearChars has, takeMark_cons hyphen, takeMark_cons colon,
    takeField_padded month (by omega), takeField_padded date (by omega),
    takeField_padded hour (by omega), takeField_padded minute (by omega),
    takeField_padded last (by omega), takeNanos_fractionChars fraction, utc, bind, Except.bind,
    true_or, if_true]
  exact again

theorem digitOf?_lt {c : Char} {d : Nat} (digit : digitOf? c = some d) : d < 10 := by
  unfold digitOf? at digit
  split at digit
  · next range =>
    have high : c.toNat ≤ 57 := UInt32.le_iff_toNat_le.mp (Char.le_def.mp range.2)
    have low : '0'.toNat = 48 := rfl
    cases digit
    omega
  · cases digit

theorem foldl_digits_lt {ds : List Nat} (small : ∀ d ∈ ds, d < 10) (acc : Nat) :
    ds.foldl (fun n d => 10 * n + d) acc < (acc + 1) * 10 ^ ds.length := by
  induction ds generalizing acc with
  | nil => simp
  | cons d rest ih =>
    have digit := small d List.mem_cons_self
    calc rest.foldl (fun n d => 10 * n + d) (10 * acc + d)
        < (10 * acc + d + 1) * 10 ^ rest.length :=
          ih (fun e member => small e (List.mem_cons_of_mem d member)) (10 * acc + d)
      _ ≤ (acc + 1) * 10 * 10 ^ rest.length := Nat.mul_le_mul_right _ (by omega)
      _ = (acc + 1) * 10 ^ (rest.length + 1) := by
          rw [Nat.mul_assoc, ← Nat.pow_succ']

theorem valueOf_lt (ds : List Char) : valueOf ds < 10 ^ ds.length := by
  have small : ∀ d ∈ ds.filterMap digitOf?, d < 10 := by
    intro d member
    obtain ⟨c, -, digit⟩ := List.mem_filterMap.mp member
    exact digitOf?_lt digit
  have value := foldl_digits_lt small 0
  rw [Nat.zero_add, Nat.one_mul] at value
  exact Nat.lt_of_lt_of_le value
    (Nat.pow_le_pow_right (by decide) (List.length_filterMap_le digitOf? ds))

theorem takeNumber_ok {width n : Nat} {cs rest : List Char}
    (read : takeNumber width cs = .ok (n, rest)) :
    cs.length - rest.length ≤ width ∧ n < 10 ^ (cs.length - rest.length) := by
  unfold takeNumber at read
  generalize taken : (cs.take width).takeWhile Char.isDigit = digits at read
  have short : digits.length ≤ min width cs.length := by
    rw [← taken, ← List.length_take]
    exact (List.takeWhile_prefix _).length_le
  dsimp only at read
  split at read
  · cases read
  · split at read
    · cases read
    · cases read
      have consumed : cs.length - (cs.drop digits.length).length = digits.length := by
        rw [List.length_drop]
        omega
      rw [consumed]
      exact ⟨by omega, valueOf_lt digits⟩

theorem takeNanos_ok {nanos : Nat} {cs rest : List Char}
    (read : takeNanos cs = .ok (nanos, rest)) : nanos < 1000000000 := by
  unfold takeNanos at read
  split at read
  · obtain ⟨⟨n, after⟩, number, read⟩ := Json.bind_eq_ok_iff.mp read
    cases read
    obtain ⟨narrow, small⟩ := takeNumber_ok number
    generalize List.length _ - after.length = width at narrow small ⊢
    calc n * tenTo (9 - width) < 10 ^ width * tenTo (9 - width) :=
          Nat.mul_lt_mul_of_pos_right small (Nat.pow_pos (by decide))
      _ = 10 ^ (width + (9 - width)) := (Nat.pow_add 10 width (9 - width)).symm
      _ = 10 ^ 9 := by rw [Nat.add_sub_cancel' narrow]
  · cases read
    decide

theorem takeOffset_ok {offset : Int} {cs rest : List Char}
    (read : takeOffset cs = .ok (offset, rest)) : offset % 60 = 0 := by
  unfold takeOffset at read
  split at read
  · cases read
  · split at read
    · cases read
      rfl
    · split at read
      · cases read
        rfl
      · split at read
        · obtain ⟨⟨h, h', more⟩, -, read⟩ := Json.bind_eq_ok_iff.mp read
          obtain ⟨⟨m, m', more⟩, -, read⟩ := Json.bind_eq_ok_iff.mp read
          dsimp only at read
          split at read
          · cases read
          · cases read
            split <;> omega
        · cases read

theorem ofFields_sound {date : CivilDate} {hour minute second nanos : Nat} {offset : Int}
    {t : Timestamp} (made : ofFields date hour minute second nanos offset = .ok t)
    (fraction : nanos < 1000000000) (minutes : offset % 60 = 0) : t.Sound := by
  unfold ofFields at made
  split at made
  · generalize marked : (if second = 60 then 1 else 0) = leap at made
    have sixty : leap ≤ 1 ∧ (leap = 1 → second = 60) := by
      rw [← marked]
      split <;> omega
    dsimp only at made
    split at made
    · cases made
    · next has =>
      split at made
      · cases made
        refine ⟨by simpa using has, fun late => ?_⟩
        dsimp only at late ⊢
        omega
      · cases made
  · cases made

theorem sound_of_parse {text : String} {t : Timestamp} (read : parse text = .ok t) : t.Sound := by
  unfold parse at read
  obtain ⟨⟨year, cs⟩, -, read⟩ := Json.bind_eq_ok_iff.mp read
  obtain ⟨cs, -, read⟩ := Json.bind_eq_ok_iff.mp read
  obtain ⟨⟨month, cs⟩, -, read⟩ := Json.bind_eq_ok_iff.mp read
  obtain ⟨cs, -, read⟩ := Json.bind_eq_ok_iff.mp read
  obtain ⟨⟨day, cs⟩, -, read⟩ := Json.bind_eq_ok_iff.mp read
  obtain ⟨cs, -, read⟩ := Json.bind_eq_ok_iff.mp read
  obtain ⟨⟨hour, cs⟩, -, read⟩ := Json.bind_eq_ok_iff.mp read
  obtain ⟨cs, -, read⟩ := Json.bind_eq_ok_iff.mp read
  obtain ⟨⟨minute, cs⟩, -, read⟩ := Json.bind_eq_ok_iff.mp read
  obtain ⟨cs, -, read⟩ := Json.bind_eq_ok_iff.mp read
  obtain ⟨⟨second, cs⟩, -, read⟩ := Json.bind_eq_ok_iff.mp read
  obtain ⟨⟨nanos, cs⟩, fraction, read⟩ := Json.bind_eq_ok_iff.mp read
  obtain ⟨⟨offset, cs⟩, zone, read⟩ := Json.bind_eq_ok_iff.mp read
  dsimp only at read
  split at read
  · exact ofFields_sound read (takeNanos_ok fraction) (takeOffset_ok zone)
  · cases read

theorem fits_of_sound {n : Nat} (sound : (ofMillis n).Sound) : FitsWord n := by
  obtain ⟨year, day, bounds, -, dated, found⟩ := CivilDate.exists_ofMarch (n / 1000 / 86400 : Nat)
  have has : CivilDate.hasYear (CivilDate.ofMarch year day).year = true := by
    rw [← dated]
    exact sound.year
  have late : year ≤ 262142 := by
    simp only [CivilDate.hasYear, Bool.and_eq_true, decide_eq_true_eq] at has
    unfold CivilDate.ofMarch at has
    split at has
    · exact has.2
    · dsimp only at has
      omega
  rw [CivilDate.toDays_ofMarch bounds] at found
  unfold FitsWord
  omega

end Walkthrough.Timestamp
