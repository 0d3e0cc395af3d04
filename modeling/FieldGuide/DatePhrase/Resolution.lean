import FieldGuide.DatePhrase.Reading
import FieldGuide.Calendar.Moment
set_option autoImplicit false

/-!
# The moment of a date phrase

A phrase names a moment relative to a base.  Without a date it is a time on the day of the base;
without a time it is the start of the named day, except that a distance in days keeps the time of
the base and a distance in seconds has no time of its own.
-/

namespace FieldGuide.DatePhrase

open Calendar

/-- A result, or a fault where there is none. -/
def orFault {α : Type} (fault : Fault) : Option α → Except Fault α
  | some value => .ok value
  | none => .error fault

/-- A result that has to be a signed number of 32 bits. -/
def signedResult (n : Int) : Except Fault Int :=
  if -2 ^ 31 ≤ n ∧ n < 2 ^ 31 then .ok n else .error .broken

/-- The time that stands for no time part: midnight. -/
def TimePart.midnight : TimePart := { hour := 0 }

/-- The time part of a phrase set on a moment and moved to UTC; midnight if there is no time
part. -/
def atTime (m : Moment) (time : Option TimePart) : Except Fault Moment := do
  let t := time.getD .midnight
  let set ← orFault .unreadable (m.setTime? t.hour t.minute t.second (t.micros * 1000))
  match t.offset with
  | none => return set
  | some ahead => orFault .unreadable (set.ofLocal? ahead)

/-- The month that lies a number of months from a month, with its year.  Going back, the number of
a month may come out one too high for any month. -/
def monthFrom (year : Int) (month : Nat) (delta : Int) : Except Fault (Int × Int) := do
  let m ← signedResult ((month : Int) - 1 + delta)
  if 0 ≤ m then return (year + m / 12, m % 12 + 1)
  else
    let back ← signedResult (12 - m)
    return (year - back / 12, 12 - back % 12 + 1)

/-- The day of a month, or one of the `back` days before it if there is no such day. -/
def backOff? (year : Int) (month : Nat) (day : Nat) : (back : Nat) → Option Date
  | 0 => Date.of? year month day
  | back + 1 => Date.of? year month day <|> backOff? year month (day - 1) back

/-- The same day a number of months later; days that the month does not have fall back on its last
day, the 28th at the least. -/
def addMonths (d : Date) (delta : Int) : Except Fault Date := do
  let (year, month) ← monthFrom d.year d.month delta
  orFault .unreadable (backOff? year month.toNat d.day (d.day - 28))

/-- The moment at a distance from the base. -/
def atDistance (base : Moment) (unit : TimeUnit) (count : Int) (time : Option TimePart) :
    Except Fault Moment :=
  match unit with
  | .seconds n => orFault .broken (base.addSeconds? (n * count))
  | .days n => do
    let moved ← orFault .broken (base.addDays? (n * count))
    match time with
    | some _ => atTime moved time
    | none => return moved
  | .months n => do
    let delta ← signedResult (n * count)
    atTime (.ofDate (← addMonths base.date delta)) time

/-- The time of day by which a day of the week that is today's is told from the next or the last. -/
def namedClock (time : Option TimePart) : Except Fault Clock :=
  match time with
  | none => .ok .midnight
  | some t => orFault .unreadable (Clock.of? t.hour t.minute t.second 0)

/-- Adds days to a moment inside the calendar. -/
def shiftDays (m : Moment) (days : Int) : Except Fault Moment :=
  orFault .unreadable (m.addDays? days)

/-- The moment of a day of the week.  Without a direction it is the next one; `next` means the week
after for the British.  On the day itself the time decides. -/
def onWeekday (dialect : Dialect) (base : Moment) (direction : Direction) (day : Nat)
    (time : Option TimePart) : Except Fault Moment := do
  let forward := direction ≠ .last
  let diff : Int := (day : Int) - base.date.weekday
  let moved ← shiftDays base diff
  let moved ←
    if forward && moved.before base then shiftDays moved 7
    else if !forward && base.before moved then shiftDays moved (-7)
    else pure moved
  let moved ←
    if direction = .next ∧ dialect = .uk then shiftDays moved 7 else pure moved
  let moved ←
    if diff = 0 then do
      let clock ← namedClock time
      if forward && clock.before base.clock then shiftDays moved 7
      else if !forward && base.clock.before clock then shiftDays moved (-7)
      else pure moved
    else pure moved
  atTime moved time

/-- The moment of a day of a month, in the year of the base or the one that the direction asks
for. -/
def onDayOfMonth (base : Moment) (direction : Direction) (day month : Nat)
    (time : Option TimePart) : Except Fault Moment := do
  let date ← orFault .unreadable (Date.of? base.date.year month day)
  let start := Moment.ofDate date
  let date ←
    if direction = .next ∧ start.before base then
      orFault .unreadable (Date.of? (base.date.year + 1) month day)
    else if direction = .last ∧ base.before start then
      orFault .unreadable (Date.of? (base.date.year - 1) month day)
    else pure date
  atTime (.ofDate date) time

/-- The moment of the parts of a phrase. -/
def resolve (dialect : Dialect) (base : Moment) (date : Option DatePart)
    (time : Option TimePart) : Except Fault Moment :=
  match date with
  | none => atTime base time
  | some (.absolute year month day) => do
    atTime (.ofDate (← orFault .unreadable (Date.of? year month day))) time
  | some (.relative unit count) => atDistance base unit count time
  | some (.weekday direction day) => onWeekday dialect base direction day time
  | some (.dayOfMonth direction day month) => onDayOfMonth base direction day month time

/-- The moment that a phrase names. -/
def moment (dialect : Dialect) (base : Moment) (cs : List Char) : Except Fault Moment :=
  match phrase dialect cs with
  | .error fault => .error fault
  | .ok ((date, time), _) => resolve dialect base date time

end FieldGuide.DatePhrase
