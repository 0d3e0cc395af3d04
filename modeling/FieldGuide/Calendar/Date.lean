set_option autoImplicit false

/-!
# Dates

Dates of the proleptic Gregorian calendar, between two fixed years.  A date is a year, a month and
a day that belong together; its day number counts days from 1 January of year 1.

`ofDayNumber?` is the way back from day numbers, so that days can be added to a date; it answers
nothing where the day number belongs to no date of the calendar.
-/

namespace FieldGuide.Calendar

/-- The first year of the calendar. -/
def firstYear : Int := -262143

/-- The last year of the calendar. -/
def lastYear : Int := 262142

/-- A year has a leap day if four divides it, except the centuries that 400 does not divide. -/
def isLeap (year : Int) : Bool := year % 4 == 0 && (year % 100 != 0 || year % 400 == 0)

/-- The days of a month. -/
def monthLength (year : Int) (month : Nat) : Nat :=
  if month = 2 then (if isLeap year then 29 else 28)
  else if month = 4 ∨ month = 6 ∨ month = 9 ∨ month = 11 then 30
  else 31

/-- Year, month and day name a date of the calendar. -/
def InCalendar (year : Int) (month day : Nat) : Prop :=
  (firstYear ≤ year ∧ year ≤ lastYear) ∧ (1 ≤ month ∧ month ≤ 12) ∧
    (1 ≤ day ∧ day ≤ monthLength year month)

instance (year : Int) (month day : Nat) : Decidable (InCalendar year month day) :=
  inferInstanceAs (Decidable (_ ∧ _ ∧ _))

/-- A date of the calendar. -/
structure Date where
  year : Int
  month : Nat
  day : Nat
  inCalendar : InCalendar year month day
  deriving DecidableEq, Repr

/-- The days of the months before one of a year. -/
def daysBeforeMonth (year : Int) : Nat → Nat
  | 0 => 0
  | month + 1 => daysBeforeMonth year month + (if month = 0 then 0 else monthLength year month)

/-- The days from 1 January of year 1 to 1 January of a year. -/
def daysBeforeYear (year : Int) : Int :=
  let y := year - 1
  365 * y + y / 4 - y / 100 + y / 400

/-- The year in which the day with a day number lies.  A year is 146097 / 400 days long on average;
an estimate from that is off by one year at most. -/
def yearOfDayNumber (n : Int) : Int :=
  let guess := n * 400 / 146097 + 1
  if n < daysBeforeYear guess then guess - 1
  else if daysBeforeYear (guess + 1) ≤ n then guess + 1
  else guess

/-- The last of the first `months` months that starts on or before a day of the year. -/
def monthOfOrdinal (year : Int) (ordinal : Nat) : (months : Nat) → Nat
  | 0 => 1
  | month + 1 =>
    if daysBeforeMonth year (month + 1) ≤ ordinal then month + 1
    else monthOfOrdinal year ordinal month

namespace Date

/-- The date of a year, month and day, if there is one. -/
def of? (year : Int) (month day : Nat) : Option Date :=
  if h : InCalendar year month day then some ⟨year, month, day, h⟩ else none

/-- The day of the year, from 0. -/
def ordinal0 (d : Date) : Nat := daysBeforeMonth d.year d.month + (d.day - 1)

/-- The days from 1 January of year 1 to the date. -/
def dayNumber (d : Date) : Int := daysBeforeYear d.year + d.ordinal0

/-- The date with a day number, if it lies in the calendar. -/
def ofDayNumber? (n : Int) : Option Date :=
  let year := yearOfDayNumber n
  let ordinal := (n - daysBeforeYear year).toNat
  let month := monthOfOrdinal year ordinal 12
  of? year month (ordinal - daysBeforeMonth year month + 1)

/-- The date a number of days later, if it lies in the calendar. -/
def addDays? (d : Date) (days : Int) : Option Date := ofDayNumber? (d.dayNumber + days)

/-- The day of the week, Monday being 0. -/
def weekday (d : Date) : Nat := (d.dayNumber % 7).toNat

/-- The day number of the Thursday of the date's week, which decides the year of the week. -/
def thursday (d : Date) : Int := d.dayNumber - d.weekday + 3

/-- The year to which the week of the date belongs. -/
def isoYear (d : Date) : Int := yearOfDayNumber d.thursday

/-- The number of the week of the date in that year, from 1. -/
def isoWeek (d : Date) : Nat := ((d.thursday - daysBeforeYear d.isoYear) / 7 + 1).toNat

end Date

/-- 1 January 1970, the day from which seconds are counted. -/
def epoch : Date := ⟨1970, 1, 1, by decide⟩

instance : Inhabited Date := ⟨epoch⟩

theorem Date.of?_self (d : Date) : Date.of? d.year d.month d.day = some d := by
  simp [Date.of?, d.inCalendar]

end FieldGuide.Calendar
