import FieldGuide.Proofs.DateLetters
set_option autoImplicit false

/-!
# The lengths of the months

The length of a month is found by a step into the next month and back, the day of the year by adding
up the months before, and whether a year is a leap year by looking for its 29 February.  All three
agree with the list of the months that the Gregorian calendar has, for every date.
-/

namespace FieldGuide.Calendar

open Number

/-! ## The months of the Gregorian calendar -/

/-- The lengths of the twelve months of a year. -/
def gregorianLengths (year : Int) : List Nat :=
  [31, if 4 ∣ year ∧ (100 ∣ year → 400 ∣ year) then 29 else 28, 31, 30, 31, 30,
    31, 31, 30, 31, 30, 31]

theorem isLeap_iff_dvd (year : Int) :
    isLeap year = true ↔ 4 ∣ year ∧ (100 ∣ year → 400 ∣ year) := by
  rw [isLeap_iff]
  omega

theorem map_monthLength (year : Int) :
    (List.range 12).map (fun i => monthLength year (i + 1)) = gregorianLengths year := by
  have hfebruary : monthLength year 2 =
      if 4 ∣ year ∧ (100 ∣ year → 400 ∣ year) then 29 else 28 := by
    simp only [monthLength, isLeap_iff_dvd, if_true]
  -- the other eleven lengths do not depend on the year
  rw [gregorianLengths, ← hfebruary]
  rfl

/-- The days before a month are those of the months in front of it in the list. -/
theorem sum_take_gregorianLengths {year : Int} {month : Nat} (hmonth : month ≤ 12) :
    ((gregorianLengths year).take month).sum =
      ((List.range month).map fun i => monthLength year (i + 1)).sum := by
  rw [← map_monthLength, ← List.map_take, List.take_range, Nat.min_eq_left hmonth]

/-! ## Years and months in words -/

/-- The month behind a month, the year being a word of 32 bits with a sign and the month one
without.  Nothing comes of a sum that is no such word. -/
def nextMonth? (year : Int32) (month : UInt32) : Option (Int32 × UInt32) :=
  if month = 12 then
    if year.toInt + 1 ≤ Int32.maxValue.toInt then some (year + 1, 1) else none
  else if month.toNat + 1 < UInt32.size then some (year, month + 1) else none

/-- The days of a month, computed in words. -/
def daysInMonthInWords (year : Int32) (month : UInt32) : Option Nat :=
  (nextMonth? year month).map fun next =>
    (((Date.of? next.1.toInt next.2.toNat 1).bind (·.addDays? (-1))).map (·.day)).getD 31

section

variable {year : Int32} {month : UInt32}

/-- A year of the calendar has a word behind it, and so has a month. -/
theorem nextMonth?_eq (hyear : year.toInt ≤ lastYear) (hmonth : month.toNat ≤ 12) :
    ∃ next, nextMonth? year month = some next ∧
      next.1.toInt = (nextMonth year.toInt month.toNat).1 ∧
        next.2.toNat = (nextMonth year.toInt month.toNat).2 := by
  unfold lastYear at hyear
  have hlow := year.le_toInt
  have hsize : UInt32.size = 2 ^ 32 := rfl
  unfold nextMonth? nextMonth
  by_cases hdecember : month = 12
  · have hfits : year.toInt + 1 ≤ Int32.maxValue.toInt := by
      change year.toInt + 1 ≤ 2 ^ 31 - 1
      omega
    have hnext : (year + 1).toInt = year.toInt + 1 := by
      have hone : Int32.toInt 1 = 1 := rfl
      rw [Int32.toInt_add, hone]
      exact Int.bmod_eq_of_le (by omega) (by omega)
    have hnumber : month.toNat = 12 := congrArg UInt32.toNat hdecember
    rw [if_pos hdecember, if_pos hfits, if_pos hnumber]
    exact ⟨_, rfl, hnext, rfl⟩
  · have hfits : month.toNat + 1 < UInt32.size := by omega
    have hnext : (month + 1).toNat = month.toNat + 1 := by
      rw [UInt32.toNat_add, UInt32.toNat_one]
      omega
    have hnumber : month.toNat ≠ 12 := fun h => hdecember (UInt32.toNat_inj.mp h)
    rw [if_neg hdecember, if_pos hfits, if_neg hnumber]
    exact ⟨_, rfl, rfl, hnext⟩

theorem daysInMonthInWords_eq (hyear : year.toInt ≤ lastYear) (hmonth : month.toNat ≤ 12) :
    daysInMonthInWords year month =
      some (DateLetters.daysInMonth year.toInt month.toNat) := by
  obtain ⟨next, hnext, hnextYear, hnextMonth⟩ := nextMonth?_eq hyear hmonth
  rw [daysInMonthInWords, hnext, Option.map_some, hnextYear, hnextMonth, daysInMonth_eq_getD]
  rfl

end

/-- The year and the month of a date are words, and so are those of the next month. -/
theorem exists_words (d : Date) :
    ∃ (year : Int32) (month : UInt32), year.toInt = d.year ∧ month.toNat = d.month ∧
      daysInMonthInWords year month = some (DateLetters.daysInMonth d.year d.month) := by
  have hmonth := d.month_le
  have hlow : -262143 ≤ d.year := d.inCalendar.1.1
  have hhigh : d.year ≤ 262142 := d.inCalendar.1.2
  have hyear' : (Int32.ofInt d.year).toInt = d.year :=
    Int32.toInt_ofInt_of_le (by omega) (by omega)
  have hmonth' : (UInt32.ofNat d.month).toNat = d.month := by
    rw [UInt32.toNat_ofNat']
    omega
  refine ⟨Int32.ofInt d.year, UInt32.ofNat d.month, hyear', hmonth', ?_⟩
  rw [daysInMonthInWords_eq (by rw [hyear']; exact hhigh) (by rw [hmonth']; exact hmonth), hyear',
    hmonth']

/-! ## The letters that tell of months -/

/-- A letter without a pattern has its literal text. -/
theorem format?_literal (m : Moment) {c : Char} (hpattern : DateLetters.pattern? c = none)
    (hc : c ≠ '\\') : DateLetters.format? [c] m = some (DateLetters.literal m c) := by
  have htext : DateLetters.toPattern m [c] = DateLetters.escape (DateLetters.literal m c) := by
    rw [DateLetters.toPattern, hpattern, DateLetters.toPattern, List.append_nil]
    · intro _ _ hback
      exact absurd hback hc
    · intro hback
      exact absurd hback hc
  rw [DateLetters.format?, htext]
  exact (shows_escape m _).2

theorem daysInMonth_february {year : Int} (hyear : firstYear ≤ year ∧ year ≤ lastYear) :
    DateLetters.daysInMonth year 2 = 29 ↔ isLeap year = true := by
  rw [daysInMonth_eq hyear (by decide), monthLength, if_pos rfl]
  split <;> simp_all

/-- The length of every month is that of the Gregorian calendar. -/
theorem map_daysInMonth {year : Int} (hyear : firstYear ≤ year ∧ year ≤ lastYear) :
    (List.range 12).map (fun i => DateLetters.daysInMonth year (i + 1)) =
      gregorianLengths year := by
  rw [← map_monthLength]
  refine List.map_congr_left ?_
  intro i hi
  have hlt := List.mem_range.mp hi
  exact daysInMonth_eq hyear (by omega)

/-- For every date, the lengths of the months of its year are the Gregorian ones, and no sum on the
way to them leaves its words; only behind the last month of the calendar there is no day to step
back from.  What the letters tell agrees with them: the length of the month, whether February has 29
days, and the days of the earlier months together with those of the month that are over. -/
theorem month_lengths_agree (m : Moment) :
    (List.range 12).map (fun i => DateLetters.daysInMonth m.date.year (i + 1)) =
        gregorianLengths m.date.year ∧
      (∃ (year : Int32) (month : UInt32), year.toInt = m.date.year ∧ month.toNat = m.date.month ∧
        daysInMonthInWords year month =
          some (DateLetters.daysInMonth m.date.year m.date.month)) ∧
      (lastDay? m.date.year m.date.month = none ↔ m.date.year = lastYear ∧ m.date.month = 12) ∧
      DateLetters.format? ['t'] m =
        some (figures (DateLetters.daysInMonth m.date.year m.date.month)) ∧
      DateLetters.format? ['L'] m =
        some (if DateLetters.daysInMonth m.date.year 2 = 29 then ['1'] else ['0']) ∧
      DateLetters.format? ['z'] m =
        some (figures (((gregorianLengths m.date.year).take (m.date.month - 1)).sum +
          (m.date.day - 1))) ∧
      m.date.day ≤ DateLetters.daysInMonth m.date.year m.date.month := by
  have hyear := m.date.inCalendar.1
  have hmonth := m.date.inCalendar.2.1
  refine ⟨map_daysInMonth hyear, exists_words m.date, lastDay?_eq_none_iff hyear hmonth,
    format?_literal m rfl (by decide), ?_, ?_, ?_⟩
  · rw [format?_literal m rfl (by decide)]
    simp only [DateLetters.literal, isSome_leapDay, daysInMonth_february hyear]
  · rw [format?_literal m rfl (by decide), sum_take_gregorianLengths (by omega)]
    exact congrArg (fun n => some (figures n)) (ordinal0_eq m.date)
  · rw [daysInMonth_eq hyear hmonth]
    exact m.date.inCalendar.2.2.2

example : lastDay? lastYear 12 = none ∧ DateLetters.daysInMonth lastYear 12 = 31 := by decide

end FieldGuide.Calendar
