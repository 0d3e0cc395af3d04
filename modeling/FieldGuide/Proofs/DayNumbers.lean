import Mathlib.Algebra.Order.Ring.Int
import Mathlib.Tactic.SplitIfs
import FieldGuide.Calendar.DateLetters
set_option autoImplicit false

/-!
# Day numbers

Years follow each other without a gap in the day numbers, and so do the months of a year.  So a day
number belongs to one year and to one month of it, every date of the calendar is found again from its
day number, and the day before the first of a month is the last day of the month before.
-/

namespace FieldGuide.Calendar

/-! ## Years -/

/-- The days of a year. -/
def yearLength (year : Int) : Nat := if isLeap year then 366 else 365

theorem isLeap_iff (year : Int) :
    isLeap year = true ↔ year % 4 = 0 ∧ (year % 100 ≠ 0 ∨ year % 400 = 0) := by
  simp [isLeap]

theorem daysBeforeYear_eq (year : Int) : daysBeforeYear year =
    365 * (year - 1) + (year - 1) / 4 - (year - 1) / 100 + (year - 1) / 400 := rfl

theorem daysBeforeYear_succ (year : Int) :
    daysBeforeYear (year + 1) = daysBeforeYear year + yearLength year := by
  have hleap := isLeap_iff year
  have h4 : year / 4 = (year - 1) / 4 + if year % 4 = 0 then 1 else 0 := by
    split <;> omega
  have h100 : year / 100 = (year - 1) / 100 + if year % 100 = 0 then 1 else 0 := by
    split <;> omega
  have h400 : year / 400 = (year - 1) / 400 + if year % 400 = 0 then 1 else 0 := by
    split <;> omega
  rw [daysBeforeYear_eq, daysBeforeYear_eq, add_sub_cancel_right, h4, h100, h400, yearLength]
  by_cases h : isLeap year = true
  · rw [if_pos h]
    rw [iff_true_left h] at hleap
    split_ifs <;> omega
  · rw [if_neg h]
    rw [iff_false_left h] at hleap
    split_ifs <;> omega

/-- Each year begins behind the one before it. -/
theorem daysBeforeYear_mono {a b : Int} (h : a ≤ b) : daysBeforeYear a ≤ daysBeforeYear b := by
  rw [daysBeforeYear_eq, daysBeforeYear_eq]
  omega

/-- A day number lies in the year that is found for it. -/
theorem yearOfDayNumber_bounds (n : Int) :
    daysBeforeYear (yearOfDayNumber n) ≤ n ∧ n < daysBeforeYear (yearOfDayNumber n + 1) := by
  unfold yearOfDayNumber
  dsimp only
  split
  · simp only [daysBeforeYear_eq] at *
    omega
  · split
    · simp only [daysBeforeYear_eq] at *
      omega
    · omega

/-- A day number lies in no other year. -/
theorem yearOfDayNumber_eq {year n : Int} (hfrom : daysBeforeYear year ≤ n)
    (hto : n < daysBeforeYear (year + 1)) : yearOfDayNumber n = year := by
  obtain ⟨hfrom', hto'⟩ := yearOfDayNumber_bounds n
  by_contra hne
  rcases lt_or_gt_of_ne hne with hlt | hgt
  · have := daysBeforeYear_mono (show yearOfDayNumber n + 1 ≤ year by omega)
    omega
  · have := daysBeforeYear_mono (show year + 1 ≤ yearOfDayNumber n by omega)
    omega

/-! ## Months -/

theorem monthLength_le (year : Int) (month : Nat) : monthLength year month ≤ 31 := by
  unfold monthLength
  split_ifs <;> omega

theorem monthLength_pos (year : Int) (month : Nat) : 1 ≤ monthLength year month := by
  unfold monthLength
  split_ifs <;> omega

theorem daysBeforeMonth_succ (year : Int) {month : Nat} (h : 1 ≤ month) :
    daysBeforeMonth year (month + 1) = daysBeforeMonth year month + monthLength year month := by
  rw [daysBeforeMonth, if_neg (by omega)]

theorem daysBeforeMonth_mono (year : Int) {a b : Nat} (h : a ≤ b) :
    daysBeforeMonth year a ≤ daysBeforeMonth year b := by
  induction h with
  | refl => exact le_rfl
  | step _ ih => exact ih.trans (Nat.le_add_right _ _)

/-- The twelve months make up the year. -/
theorem daysBeforeMonth_thirteen (year : Int) : daysBeforeMonth year 13 = yearLength year := by
  unfold yearLength
  cases h : isLeap year <;> simp [daysBeforeMonth, monthLength, h]

/-- The days before a month are those of all earlier months. -/
theorem daysBeforeMonth_eq_sum (year : Int) (month : Nat) :
    daysBeforeMonth year (month + 1) =
      ((List.range month).map fun i => monthLength year (i + 1)).sum := by
  induction month with
  | zero => rfl
  | succ month ih =>
    rw [daysBeforeMonth_succ year (by omega), ih, List.range_succ, List.map_append,
      List.sum_append]
    simp

/-- A day of the year lies in the month behind whose start and before whose end it is. -/
theorem monthOfOrdinal_eq {year : Int} {ordinal month months : Nat} (hmonth : 1 ≤ month)
    (hmonths : month ≤ months) (hfrom : daysBeforeMonth year month ≤ ordinal)
    (hto : ordinal < daysBeforeMonth year (month + 1)) :
    monthOfOrdinal year ordinal months = month := by
  induction months with
  | zero => omega
  | succ months ih =>
    rw [monthOfOrdinal]
    by_cases hlast : month = months + 1
    · rw [if_pos (hlast ▸ hfrom), hlast]
    · have hlater := daysBeforeMonth_mono year (show month + 1 ≤ months + 1 by omega)
      rw [if_neg (by omega)]
      exact ih (by omega)

/-! ## Dates -/

namespace Date

variable (d : Date)

theorem day_pos : 1 ≤ d.day := d.inCalendar.2.2.1

theorem day_le : d.day ≤ 31 := d.inCalendar.2.2.2.trans (monthLength_le d.year d.month)

theorem month_pos : 1 ≤ d.month := d.inCalendar.2.1.1

theorem month_le : d.month ≤ 12 := d.inCalendar.2.1.2

/-- A date lies in its month. -/
theorem ordinal0_lt : d.ordinal0 < daysBeforeMonth d.year (d.month + 1) := by
  have hday := d.inCalendar.2.2
  rw [ordinal0, daysBeforeMonth_succ d.year d.month_pos]
  omega

/-- A date lies in its year. -/
theorem ordinal0_lt_yearLength : d.ordinal0 < yearLength d.year := by
  rw [← daysBeforeMonth_thirteen]
  exact d.ordinal0_lt.trans_le
    (daysBeforeMonth_mono d.year (Nat.succ_le_succ d.month_le))

theorem yearOfDayNumber_dayNumber : yearOfDayNumber d.dayNumber = d.year := by
  have hordinal := d.ordinal0_lt_yearLength
  refine yearOfDayNumber_eq ?_ ?_
  · rw [dayNumber]
    omega
  · rw [dayNumber, daysBeforeYear_succ]
    omega

/-- Every date is found from its day number. -/
theorem ofDayNumber?_dayNumber : ofDayNumber? d.dayNumber = some d := by
  have hordinal : (d.dayNumber - daysBeforeYear d.year).toNat = d.ordinal0 := by
    rw [dayNumber]
    omega
  have hmonth : monthOfOrdinal d.year d.ordinal0 12 = d.month :=
    monthOfOrdinal_eq d.month_pos d.month_le (Nat.le_add_right _ _) d.ordinal0_lt
  have hday : d.ordinal0 - daysBeforeMonth d.year d.month + 1 = d.day := by
    have := d.day_pos
    rw [ordinal0]
    omega
  unfold ofDayNumber?
  dsimp only
  rw [d.yearOfDayNumber_dayNumber, hordinal, hmonth, hday, of?_self]

/-! ## Weeks -/

/-- The weeks of a year have numbers of two figures. -/
theorem isoWeek_le : d.isoWeek ≤ 53 := by
  obtain ⟨hfrom, hto⟩ := yearOfDayNumber_bounds d.thursday
  have hlength : yearLength d.isoYear ≤ 366 := by
    unfold yearLength
    split <;> omega
  rw [daysBeforeYear_succ] at hto
  unfold isoWeek
  unfold isoYear at *
  omega

end Date

/-! ## The length of a month by stepping back -/

/-- The month behind a month, in front of which its year stands. -/
def nextMonth (year : Int) (month : Nat) : Int × Nat :=
  if month = 12 then (year + 1, 1) else (year, month + 1)

/-- The day before the first of the next month, if the calendar has both. -/
def lastDay? (year : Int) (month : Nat) : Option Date :=
  (Date.of? (nextMonth year month).1 (nextMonth year month).2 1).bind (·.addDays? (-1))

theorem daysInMonth_eq_getD (year : Int) (month : Nat) :
    DateLetters.daysInMonth year month = ((lastDay? year month).map (·.day)).getD 31 := by
  unfold DateLetters.daysInMonth lastDay? nextMonth
  split <;> rfl

section

variable {year : Int} {month : Nat} (hyear : firstYear ≤ year ∧ year ≤ lastYear)
  (hmonth : 1 ≤ month ∧ month ≤ 12)

include hyear hmonth

theorem exists_first_of_month : ∃ first, Date.of? year month 1 = some first ∧
    first.dayNumber = daysBeforeYear year + daysBeforeMonth year month := by
  exact ⟨_, dif_pos ⟨hyear, hmonth, le_rfl, monthLength_pos year month⟩, rfl⟩

theorem exists_last_of_month : ∃ last : Date, last.day = monthLength year month ∧
    last.dayNumber + 1 = daysBeforeYear year + daysBeforeMonth year (month + 1) := by
  have hday := monthLength_pos year month
  let last : Date := ⟨year, month, monthLength year month, hyear, hmonth, hday, le_rfl⟩
  refine ⟨last, rfl, ?_⟩
  have hordinal : last.ordinal0 + 1 = daysBeforeMonth year (month + 1) := by
    have hlast : last.ordinal0 = daysBeforeMonth year month + (monthLength year month - 1) := rfl
    rw [hlast, daysBeforeMonth_succ year hmonth.1]
    omega
  rw [Date.dayNumber, add_assoc]
  exact congrArg (daysBeforeYear year + ·) (by exact_mod_cast hordinal)

/-- Every month but the last one of the calendar is followed by the first of another. -/
theorem exists_first_behind (hend : ¬(year = lastYear ∧ month = 12)) :
    ∃ first, Date.of? (nextMonth year month).1 (nextMonth year month).2 1 = some first ∧
      first.dayNumber = daysBeforeYear year + daysBeforeMonth year (month + 1) := by
  unfold nextMonth
  by_cases hdecember : month = 12
  · rw [if_pos hdecember]
    obtain ⟨first, hfirst, hnumber⟩ := @exists_first_of_month (year + 1) 1
      ⟨by omega, by omega⟩ ⟨le_rfl, by omega⟩
    refine ⟨first, hfirst, ?_⟩
    rw [hnumber, hdecember, daysBeforeYear_succ, daysBeforeMonth_thirteen]
    exact add_zero _
  · rw [if_neg hdecember]
    exact exists_first_of_month hyear ⟨by omega, by omega⟩

/-- The day before the first of a month is the last of the month before it. -/
theorem exists_lastDay? (hend : ¬(year = lastYear ∧ month = 12)) :
    ∃ last, lastDay? year month = some last ∧ last.day = monthLength year month := by
  obtain ⟨first, hfirst, hnumber⟩ := exists_first_behind hyear hmonth hend
  obtain ⟨last, hday, hlast⟩ := exists_last_of_month hyear hmonth
  refine ⟨last, ?_, hday⟩
  rw [lastDay?, hfirst, Option.bind_some, Date.addDays?, hnumber, ← hlast, add_neg_cancel_right,
    last.ofDayNumber?_dayNumber]

/-- Only the last month of the calendar is not followed by the first of another. -/
theorem lastDay?_eq_none_iff : lastDay? year month = none ↔ year = lastYear ∧ month = 12 := by
  constructor
  · intro hnone
    by_contra hend
    obtain ⟨last, hlast, -⟩ := exists_lastDay? hyear hmonth hend
    rw [hnone] at hlast
    cases hlast
  · rintro ⟨rfl, rfl⟩
    rfl

/-- The length of a month is found by stepping back from the first of the next one.  The last month
of the calendar has 31 days, as it should. -/
theorem daysInMonth_eq : DateLetters.daysInMonth year month = monthLength year month := by
  rw [daysInMonth_eq_getD]
  by_cases hend : year = lastYear ∧ month = 12
  · rw [(lastDay?_eq_none_iff hyear hmonth).mpr hend, hend.2]
    rfl
  · obtain ⟨last, hlast, hday⟩ := exists_lastDay? hyear hmonth hend
    rw [hlast]
    exact hday

end

end FieldGuide.Calendar
