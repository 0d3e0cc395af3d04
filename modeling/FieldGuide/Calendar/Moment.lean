import FieldGuide.Calendar.Date
set_option autoImplicit false

/-!
# Times of day and moments

A time of day is a second of the day and a number of nanoseconds.  A leap second is kept as the
second before it with a whole second too many nanoseconds; adding time to it leaves it.  Any second
of the day can be followed by such an extra second.
-/

namespace FieldGuide.Calendar

/-- The nanoseconds of a second. -/
def nanosPerSecond : Nat := 1000000000

/-- The seconds of a day. -/
def secondsPerDay : Nat := 86400

/-- A time of day. -/
structure Clock where
  /-- whole seconds since midnight -/
  seconds : Nat
  /-- nanoseconds, a second too many in a leap second -/
  nanos : Nat
  seconds_lt : seconds < secondsPerDay
  nanos_lt : nanos < 2 * nanosPerSecond
  deriving DecidableEq, Repr

namespace Clock

/-- The start of the day. -/
def midnight : Clock := ⟨0, 0, by decide, by decide⟩

instance : Inhabited Clock := ⟨midnight⟩

/-- The time of day of an hour, a minute, a second and nanoseconds, if there is one. -/
def of? (hour minute second nanos : Nat) : Option Clock :=
  if h : hour < 24 ∧ minute < 60 ∧ second < 60 ∧ nanos < 2 * nanosPerSecond then
    some
      { seconds := hour * 3600 + minute * 60 + second
        nanos := nanos
        seconds_lt := by simp only [secondsPerDay]; omega
        nanos_lt := h.2.2.2 }
  else none

/-- The time of day whose seconds run up to 60; second 60 is the leap second behind second 59. -/
def ofLeap? (hour minute second nanos : Nat) : Option Clock :=
  if second = 60 then of? hour minute 59 (nanos + nanosPerSecond)
  else if nanos < nanosPerSecond then of? hour minute second nanos
  else none

def hour (c : Clock) : Nat := c.seconds / 3600

def minute (c : Clock) : Nat := c.seconds / 60 % 60

/-- The second of the minute; an extra second counts on from the second before it. -/
def second (c : Clock) : Nat := c.seconds % 60 + c.nanos / nanosPerSecond

/-- The same time of another hour. -/
def withHour? (c : Clock) (hour : Nat) : Option Clock :=
  if h : hour < 24 then
    some
      { c with
        seconds := hour * 3600 + c.seconds % 3600
        seconds_lt := by simp only [secondsPerDay]; omega }
  else none

/-- The same time with another minute of the hour. -/
def withMinute? (c : Clock) (minute : Nat) : Option Clock :=
  if h : minute < 60 then
    some
      { c with
        seconds := c.seconds / 3600 * 3600 + minute * 60 + c.seconds % 60
        seconds_lt := by have := c.seconds_lt; simp only [secondsPerDay] at this ⊢; omega }
  else none

/-- The same time with another second of the minute. -/
def withSecond? (c : Clock) (second : Nat) : Option Clock :=
  if h : second < 60 then
    some
      { c with
        seconds := c.seconds / 60 * 60 + second
        seconds_lt := by have := c.seconds_lt; simp only [secondsPerDay] at this ⊢; omega }
  else none

/-- The same time with other nanoseconds. -/
def withNanos? (c : Clock) (nanos : Nat) : Option Clock :=
  if h : nanos < 2 * nanosPerSecond then some { c with nanos := nanos, nanos_lt := h } else none

/-- The nanoseconds since the second began. -/
def subsecond (c : Clock) : Nat := c.nanos % nanosPerSecond

/-- The time of day lies in an extra second. -/
def isLeap (c : Clock) : Bool := nanosPerSecond ≤ c.nanos

/-- The first time of day is earlier. -/
def before (a b : Clock) : Bool :=
  a.seconds < b.seconds || a.seconds == b.seconds && a.nanos < b.nanos

end Clock

/-- A time of day on a date. -/
structure Moment where
  date : Date
  clock : Clock
  deriving DecidableEq, Repr, Inhabited

namespace Moment

/-- The first moment of a date. -/
def ofDate (d : Date) : Moment := ⟨d, .midnight⟩

/-- The first moment is earlier. -/
def before (a b : Moment) : Bool :=
  a.date.dayNumber < b.date.dayNumber ||
    a.date.dayNumber == b.date.dayNumber && a.clock.before b.clock

/-- The moment a number of seconds later, if it lies in the calendar.  From a leap second one goes
forward as from the second before it and back as from the second behind it. -/
def addSeconds? (m : Moment) (seconds : Int) : Option Moment :=
  if seconds = 0 then some m
  else
    let start : Int := m.clock.seconds + (if m.clock.isLeap && seconds < 0 then 1 else 0)
    let total := start + seconds
    (Date.ofDayNumber? (m.date.dayNumber + total / secondsPerDay)).map fun date =>
      { date := date
        clock :=
          { seconds := (total % secondsPerDay).toNat
            nanos := m.clock.nanos % nanosPerSecond
            seconds_lt := by simp only [secondsPerDay]; omega
            nanos_lt := by simp only [nanosPerSecond]; omega } }

/-- The moment a number of days later, if it lies in the calendar. -/
def addDays? (m : Moment) (days : Int) : Option Moment := m.addSeconds? (days * secondsPerDay)

/-- The extra second behind the last second of the calendar. -/
def isPastEnd (m : Moment) : Bool :=
  m.date.year == lastYear && m.date.month == 12 && m.date.day == 31 &&
    m.clock.seconds + 1 == secondsPerDay && m.clock.isLeap

/-- Another time on the same date.  The calendar ends with its last second, so the extra second
behind it cannot be set. -/
def setClock? (m : Moment) (clock : Option Clock) : Option Moment :=
  (clock.map (Moment.mk m.date)).filter (!·.isPastEnd)

/-- The moment with another hour, then minute, then second, then nanoseconds; each of these moments
must be one that can be set. -/
def setTime? (m : Moment) (hour minute second nanos : Nat) : Option Moment := do
  let m ← m.setClock? (m.clock.withHour? hour)
  let m ← m.setClock? (m.clock.withMinute? minute)
  let m ← m.setClock? (m.clock.withSecond? second)
  m.setClock? (m.clock.withNanos? nanos)

/-- The moment at which clocks that are some seconds ahead of UTC show the given moment.  Here an
extra second is accepted only at the end of a minute. -/
def ofLocal? (m : Moment) (ahead : Int) : Option Moment :=
  let total := m.clock.seconds - ahead
  let clock : Clock :=
    { m.clock with
      seconds := (total % secondsPerDay).toNat
      seconds_lt := by simp only [secondsPerDay]; omega }
  if clock.isLeap && clock.seconds % 60 != 59 then none
  else
    (Date.ofDayNumber? (m.date.dayNumber + total / secondsPerDay)).map fun date => ⟨date, clock⟩

/-- The whole seconds since the start of 1970, leap seconds not counted. -/
def timestamp (m : Moment) : Int :=
  (m.date.dayNumber - epoch.dayNumber) * secondsPerDay + m.clock.seconds

end Moment

end FieldGuide.Calendar
