import Walkthrough.Report.Timestamp

/-!
Days and dates. A day is found again from the date that it falls on, and that date exists: an era of
400 years is made of centuries, these of cycles of four years, and these of years, all of which
begin with March so that a leap day is the last of its year.
-/
namespace Walkthrough.CivilDate

structure Placed (dayOfEra century cycle year day : Int) : Prop where
  sum : dayOfEra = 36524 * century + 1461 * cycle + 365 * year + day
  centuries : 0 ≤ century ∧ century ≤ 3
  cycles : 0 ≤ cycle ∧ cycle ≤ 24
  years : 0 ≤ year ∧ year ≤ 3
  days : 0 ≤ day ∧ day ≤ 365
  /-- The last cycle of a century has no leap day, unless the century is the last. -/
  leap : day = 365 → year = 3 ∧ (cycle = 24 → century = 3)

theorem exists_placed {dayOfEra : Int} (low : 0 ≤ dayOfEra) (high : dayOfEra < 146097) :
    ∃ century cycle year day, Placed dayOfEra century cycle year day := by
  obtain ⟨century, hc⟩ : ∃ c, c = min (dayOfEra / 36524) 3 := ⟨_, rfl⟩
  obtain ⟨cycle, hq⟩ : ∃ q, q = min ((dayOfEra - 36524 * century) / 1461) 24 := ⟨_, rfl⟩
  obtain ⟨year, hy⟩ : ∃ y, y = min ((dayOfEra - 36524 * century - 1461 * cycle) / 365) 3 :=
    ⟨_, rfl⟩
  refine ⟨century, cycle, year, dayOfEra - 36524 * century - 1461 * cycle - 365 * year,
    ?_, ?_, ?_, ?_, ?_, ?_⟩
  all_goals omega

/-- Months that have passed since March on a day of the year. -/
def monthOf (day : Int) : Int := (5 * day + 2) / 153

def dateOf (day : Int) : Int := day - (153 * monthOf day + 2) / 5 + 1

/-- The date of a day of the year that begins in March of the given one. -/
def ofMarch (year day : Int) : CivilDate :=
  if monthOf day < 10 then ⟨year, (monthOf day + 3).toNat, (dateOf day).toNat⟩
  else ⟨year + 1, (monthOf day - 9).toNat, (dateOf day).toNat⟩

theorem monthOf_bounds {day : Int} (days : 0 ≤ day ∧ day ≤ 365) :
    0 ≤ monthOf day ∧ monthOf day ≤ 11 := by
  unfold monthOf
  omega

theorem dateOf_pos (day : Int) : 1 ≤ dateOf day := by
  unfold dateOf monthOf
  omega

section

variable {dayOfEra century cycle year day : Int}

theorem Placed.yearOfEra (h : Placed dayOfEra century cycle year day) :
    (dayOfEra - dayOfEra / 1460 + dayOfEra / 36524 - dayOfEra / 146096) / 365 =
      100 * century + 4 * cycle + year := by
  obtain ⟨sum, centuries, cycles, years, days, leap⟩ := h
  -- Only the last day of the era is not among the days of four equal centuries.
  by_cases last : dayOfEra = 146096
  · omega
  · have whole : dayOfEra / 146096 = 0 := by omega
    have begun : dayOfEra / 36524 = century := by omega
    -- Counting four years as 1460 days runs ahead of the cycles, by one at most.
    obtain ⟨passed, leaps⟩ :
        ∃ passed, passed = (24 * century + cycle + 365 * year + day) / 1460 := ⟨_, rfl⟩
    have cyclesBegun : dayOfEra / 1460 = 25 * century + cycle + passed := by omega
    have within : 0 ≤ day - passed ∧ day - passed < 365 := by omega
    rw [whole, begun, cyclesBegun]
    omega

theorem Placed.dayOfYear (h : Placed dayOfEra century cycle year day) :
    let yearOfEra := 100 * century + 4 * cycle + year
    dayOfEra - (365 * yearOfEra + yearOfEra / 4 - yearOfEra / 100) = day := by
  obtain ⟨sum, centuries, cycles, years, days, leap⟩ := h
  omega

theorem Placed.ofDays {days : Int}
    (h : Placed (days + 719468 - (days + 719468) / 146097 * 146097) century cycle year day) :
    ofDays days =
      ofMarch ((days + 719468) / 146097 * 400 + 100 * century + 4 * cycle + year) day := by
  have month := monthOf_bounds h.days
  simp only [CivilDate.ofDays, h.yearOfEra, h.dayOfYear]
  rw [← monthOf, ← dateOf, ofMarch]
  split
  · rw [if_neg (by omega)]
    congr 1
    omega
  · rw [if_pos (by omega)]
    congr 1
    omega

theorem toDays_ofMarch (days : 0 ≤ day ∧ day ≤ 365) :
    let yearOfEra := year - year / 400 * 400
    (ofMarch year day).toDays = year / 400 * 146097 +
      (yearOfEra * 365 + yearOfEra / 4 - yearOfEra / 100 + day) - 719468 := by
  have bounds := monthOf_bounds days
  have date := dateOf_pos day
  have dayOfYear : (153 * monthOf day + 2) / 5 + (dateOf day).toNat - 1 = day := by
    rw [Int.toNat_of_nonneg (by omega), dateOf]
    omega
  unfold ofMarch
  split
  · have month : ((monthOf day + 3).toNat : Int) - 3 = monthOf day := by omega
    simp only [CivilDate.toDays]
    rw [if_neg (by omega), if_neg (by omega), month, dayOfYear]
  · have month : ((monthOf day - 9).toNat : Int) + 9 = monthOf day := by omega
    simp only [CivilDate.toDays]
    rw [if_pos (by omega), if_pos (by omega), month, dayOfYear, Int.add_sub_cancel]

theorem Placed.toDays (h : Placed dayOfEra century cycle year day) (era : Int) :
    (ofMarch (era * 400 + 100 * century + 4 * cycle + year) day).toDays =
      era * 146097 + dayOfEra - 719468 := by
  rw [toDays_ofMarch h.days]
  obtain ⟨sum, centuries, cycles, years, days, leap⟩ := h
  have eras : (era * 400 + 100 * century + 4 * cycle + year) / 400 = era := by omega
  rw [eras]
  omega

theorem Placed.isLeapYear (h : Placed dayOfEra century cycle year day) (last : day = 365)
    (era : Int) : isLeapYear (era * 400 + 100 * century + 4 * cycle + year + 1) = true := by
  obtain ⟨sum, centuries, cycles, years, days, leap⟩ := h
  have fourth : (era * 400 + 100 * century + 4 * cycle + year + 1) % 4 = 0 := by omega
  have divides : (era * 400 + 100 * century + 4 * cycle + year + 1) % 100 = 0 →
      (era * 400 + 100 * century + 4 * cycle + year + 1) % 400 = 0 := by omega
  simp only [CivilDate.isLeapYear, fourth, BEq.rfl, Bool.true_and, Bool.or_eq_true, bne_iff_ne,
    beq_iff_eq]
  exact (Decidable.em _).symm.imp_right divides

theorem dateOf_le (days : 0 ≤ day ∧ day ≤ 365) (leap : day = 365 → isLeapYear (year + 1) = true) :
    (ofMarch year day).day ≤ daysInMonth (ofMarch year day).year (ofMarch year day).month := by
  have month : monthOf day = (5 * day + 2) / 153 := rfl
  have date : dateOf day = day - (153 * monthOf day + 2) / 5 + 1 := rfl
  unfold ofMarch
  split
  · dsimp only [daysInMonth]
    rw [if_neg (by omega)]
    split <;> omega
  · dsimp only [daysInMonth]
    split
    · split
      · omega
      · -- The leap day is the last of its year.
        have short : day ≠ 365 := fun last => absurd (leap last) ‹_›
        omega
    · rw [if_neg (by omega)]
      omega

theorem ofMarch_isValid (days : 0 ≤ day ∧ day ≤ 365)
    (leap : day = 365 → isLeapYear (year + 1) = true)
    (has : hasYear (ofMarch year day).year = true) : (ofMarch year day).isValid = true := by
  have month := monthOf_bounds days
  have date := dateOf_pos day
  have low : 1 ≤ (ofMarch year day).month ∧ (ofMarch year day).month ≤ 12 ∧
      1 ≤ (ofMarch year day).day := by
    unfold ofMarch
    split
    · dsimp only
      omega
    · dsimp only
      omega
  simp [isValid, has, low, dateOf_le days leap]

end

theorem exists_ofMarch (days : Int) : ∃ year day, (0 ≤ day ∧ day ≤ 365) ∧
    (day = 365 → isLeapYear (year + 1) = true) ∧ ofDays days = ofMarch year day ∧
      (ofMarch year day).toDays = days := by
  obtain ⟨dayOfEra, same⟩ :
      ∃ day, day = days + 719468 - (days + 719468) / 146097 * 146097 := ⟨_, rfl⟩
  obtain ⟨century, cycle, year, day, placed⟩ :=
    exists_placed (by omega : 0 ≤ dayOfEra) (by omega)
  rw [same] at placed
  refine ⟨_, day, placed.days, fun last => placed.isLeapYear last _, placed.ofDays, ?_⟩
  rw [placed.toDays]
  omega

theorem toDays_ofDays (days : Int) : (ofDays days).toDays = days := by
  obtain ⟨year, day, -, -, dated, found⟩ := exists_ofMarch days
  rw [dated, found]

theorem ofDays_isValid {days : Int} (has : hasYear (ofDays days).year = true) :
    (ofDays days).isValid = true := by
  obtain ⟨year, day, bounds, leap, dated, -⟩ := exists_ofMarch days
  rw [dated] at has ⊢
  exact ofMarch_isValid bounds leap has

theorem isValid_bounds {d : CivilDate} (valid : d.isValid = true) :
    (1 ≤ d.month ∧ d.month ≤ 12) ∧ 1 ≤ d.day ∧ d.day ≤ 31 := by
  have longest : daysInMonth d.year d.month ≤ 31 := by
    unfold daysInMonth
    grind
  simp only [isValid, Bool.and_eq_true, decide_eq_true_eq] at valid
  omega

example : ofDays 19782 = ⟨2024, 2, 29⟩ := by decide +kernel

end Walkthrough.CivilDate
