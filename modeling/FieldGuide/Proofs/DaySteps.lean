import FieldGuide.Proofs.DayNumbers
set_option autoImplicit false

/-!
# Days beside each other

The next day of the calendar is the next one of the month, else the first of the next month, else
the first of the next year.  It is the day whose day number is one more, and only the last date of
the calendar has none.  A moment a day later or earlier has the same time of day on the next date or
on the one before; an extra second is left on the way.
-/

namespace FieldGuide.Calendar

/-! ## Day numbers read back -/

/-- The month that is found for a day of the year is the one in which the day lies. -/
theorem monthOfOrdinal_spec {year : Int} {ordinal months : Nat}
    (h : ordinal < daysBeforeMonth year (months + 1)) :
    (1 ≤ monthOfOrdinal year ordinal months ∧ monthOfOrdinal year ordinal months ≤ months) ∧
      daysBeforeMonth year (monthOfOrdinal year ordinal months) ≤ ordinal ∧
        ordinal < daysBeforeMonth year (monthOfOrdinal year ordinal months + 1) := by
  induction months with
  | zero => cases h
  | succ months ih =>
    rw [monthOfOrdinal]
    split
    · rename_i hfrom
      exact ⟨⟨by omega, le_rfl⟩, hfrom, h⟩
    · rename_i hbefore
      obtain ⟨⟨hpos, hle⟩, hbounds⟩ := ih (Nat.lt_of_not_le hbefore)
      exact ⟨⟨hpos, hle.trans (Nat.le_succ _)⟩, hbounds⟩

namespace Date

variable {d d' : Date}

theorem eq_of_of? {year : Int} {month day : Nat} (h : of? year month day = some d) :
    d.year = year ∧ d.month = month ∧ d.day = day := by
  unfold of? at h
  split at h
  · cases h
    exact ⟨rfl, rfl, rfl⟩
  · cases h

/-- A date is found for its own day number only. -/
theorem ofDayNumber?_eq_some {n : Int} : ofDayNumber? n = some d ↔ d.dayNumber = n := by
  constructor
  · intro h
    obtain ⟨hfrom, hto⟩ := yearOfDayNumber_bounds n
    rw [daysBeforeYear_succ] at hto
    have hordinal : (n - daysBeforeYear (yearOfDayNumber n)).toNat <
        daysBeforeMonth (yearOfDayNumber n) 13 := by
      rw [daysBeforeMonth_thirteen]
      omega
    obtain ⟨-, hmonth, -⟩ := monthOfOrdinal_spec hordinal
    obtain ⟨hyear, hmonth', hday⟩ := eq_of_of? h
    rw [dayNumber, ordinal0, hyear, hmonth', hday]
    omega
  · rintro rfl
    exact d.ofDayNumber?_dayNumber

theorem dayNumber_injective (h : d.dayNumber = d'.dayNumber) : d = d' :=
  Option.some.inj (d.ofDayNumber?_dayNumber.symm.trans (ofDayNumber?_eq_some.mpr h.symm))

/-! ## The next date -/

/-- The second date is the next day of the calendar. -/
inductive Next (d d' : Date) : Prop where
  | withinMonth (hyear : d'.year = d.year) (hmonth : d'.month = d.month)
      (hday : d'.day = d.day + 1)
  | intoMonth (hyear : d'.year = d.year) (hmonth : d'.month = d.month + 1)
      (hlast : d.day = monthLength d.year d.month) (hday : d'.day = 1)
  | intoYear (hyear : d'.year = d.year + 1) (hdecember : d.month = 12) (hlast : d.day = 31)
      (hmonth : d'.month = 1) (hday : d'.day = 1)

/-- The last date of the calendar. -/
def last : Date := ⟨lastYear, 12, 31, by decide⟩

/-- The first date of the calendar. -/
def first : Date := ⟨firstYear, 1, 1, by decide⟩

theorem eq_last_iff : d = last ↔ d.year = lastYear ∧ d.month = 12 ∧ d.day = 31 := by
  obtain ⟨year, month, day, h⟩ := d
  simp [last]

theorem eq_first_iff : d = first ↔ d.year = firstYear ∧ d.month = 1 ∧ d.day = 1 := by
  obtain ⟨year, month, day, h⟩ := d
  simp [first]

theorem Next.dayNumber_eq (h : d.Next d') : d'.dayNumber = d.dayNumber + 1 := by
  have hday := d.day_pos
  unfold dayNumber ordinal0
  cases h with
  | withinMonth hyear hmonth hday' =>
    rw [hyear, hmonth, hday']
    omega
  | intoMonth hyear hmonth hlast hday' =>
    rw [hyear, hmonth, hday', daysBeforeMonth_succ d.year d.month_pos]
    omega
  | intoYear hyear hdecember hlast hmonth hday' =>
    have hmonths := daysBeforeMonth_thirteen d.year
    rw [daysBeforeMonth_succ d.year (by decide)] at hmonths
    rw [hyear, hmonth, hday', hdecember, hlast, daysBeforeYear_succ, ← hmonths]
    have hfirst : daysBeforeMonth (d.year + 1) 1 = 0 := rfl
    have hlength : monthLength d.year 12 = 31 := rfl
    omega

theorem exists_next (h : d ≠ last) : ∃ d', d.Next d' := by
  have hyear := d.inCalendar.1
  have hmonth := d.inCalendar.2.1
  have hday := d.inCalendar.2.2
  rw [Ne, eq_last_iff] at h
  by_cases hwithin : d.day < monthLength d.year d.month
  · exact ⟨⟨d.year, d.month, d.day + 1, hyear, hmonth, by omega, by omega⟩,
      .withinMonth rfl rfl rfl⟩
  · have hlast : d.day = monthLength d.year d.month := by omega
    by_cases hmonths : d.month < 12
    · exact ⟨⟨d.year, d.month + 1, 1, hyear, by omega, le_rfl, monthLength_pos _ _⟩,
        .intoMonth rfl rfl hlast rfl⟩
    · have hdecember : d.month = 12 := by omega
      have hend : d.day = 31 := by
        rw [hlast, hdecember]
        rfl
      exact ⟨⟨d.year + 1, 1, 1, by omega, by omega, le_rfl, monthLength_pos _ _⟩,
        .intoYear rfl hdecember hend rfl rfl⟩

theorem exists_previous (h : d ≠ first) : ∃ d' : Date, d'.Next d := by
  have hyear := d.inCalendar.1
  have hmonth := d.inCalendar.2.1
  have hday := d.inCalendar.2.2
  rw [Ne, eq_first_iff] at h
  by_cases hwithin : 1 < d.day
  · exact ⟨⟨d.year, d.month, d.day - 1, hyear, hmonth, by omega, by omega⟩,
      .withinMonth rfl rfl (by dsimp only; omega)⟩
  · have hfirst : d.day = 1 := by omega
    by_cases hmonths : 1 < d.month
    · exact ⟨⟨d.year, d.month - 1, monthLength d.year (d.month - 1), hyear, by omega,
        monthLength_pos _ _, le_rfl⟩, .intoMonth rfl (by dsimp only; omega) rfl hfirst⟩
    · exact ⟨⟨d.year - 1, 12, 31, by omega, by decide, by decide, le_rfl⟩,
        .intoYear (by dsimp only; omega) rfl rfl (by omega) hfirst⟩

theorem dayNumber_le_last (d : Date) : d.dayNumber ≤ last.dayNumber := by
  have hordinal := d.ordinal0_lt_yearLength
  have hyears := daysBeforeYear_mono (Int.add_le_add_right d.inCalendar.1.2 1)
  have hlast : last.dayNumber + 1 = daysBeforeYear (lastYear + 1) := by decide
  rw [daysBeforeYear_succ] at hyears
  rw [dayNumber]
  omega

/-- The next date is the one whose day number is one more. -/
theorem next_iff : d.Next d' ↔ d'.dayNumber = d.dayNumber + 1 := by
  refine ⟨Next.dayNumber_eq, ?_⟩
  intro h
  have hne : d ≠ last := by
    rintro rfl
    have := d'.dayNumber_le_last
    omega
  obtain ⟨next, hnext⟩ := exists_next hne
  rwa [← dayNumber_injective (hnext.dayNumber_eq.trans h.symm)]

theorem not_next_last (d' : Date) : ¬last.Next d' := by
  intro h
  have := h.dayNumber_eq
  have := d'.dayNumber_le_last
  omega

theorem not_next_first (d' : Date) : ¬d'.Next first := by
  intro h
  have hyear := d'.inCalendar.1.1
  cases h with
  | withinMonth _ _ hday =>
    have := d'.day_pos
    change 1 = d'.day + 1 at hday
    omega
  | intoMonth _ hmonth _ _ =>
    have := d'.month_pos
    change 1 = d'.month + 1 at hmonth
    omega
  | intoYear hyear' _ _ _ _ =>
    change firstYear = d'.year + 1 at hyear'
    omega

end Date

/-! ## Moments a day apart -/

namespace Clock

/-- The second from which one goes back; from an extra second it is the one behind. -/
def back (c : Clock) : Nat := if c.isLeap then c.seconds + 1 else c.seconds

theorem back_le (c : Clock) : c.back ≤ secondsPerDay := by
  have hseconds := c.seconds_lt
  unfold back
  split <;> omega

theorem subsecond_lt_two (c : Clock) : c.subsecond < 2 * nanosPerSecond :=
  (Nat.mod_lt c.nanos (by decide)).trans (by decide)

end Clock

namespace Moment

variable {m m' : Moment}

/-- The second moment is a day later. -/
structure DayLater (m m' : Moment) : Prop where
  date : m.date.Next m'.date
  seconds : m'.clock.seconds = m.clock.seconds
  nanos : m'.clock.nanos = m.clock.subsecond

/-- The second moment is a day earlier. -/
inductive DayEarlier (m m' : Moment) : Prop where
  | before (hdate : m'.date.Next m.date) (hseconds : m'.clock.seconds = m.clock.back)
      (hnanos : m'.clock.nanos = m.clock.subsecond)
  /-- behind the last second of the day, a day earlier is its first one -/
  | start (hback : m.clock.back = secondsPerDay) (hdate : m'.date = m.date)
      (hseconds : m'.clock.seconds = 0) (hnanos : m'.clock.nanos = m.clock.subsecond)

/-- Adding seconds comes to some whole days and a second of the day. -/
theorem addSeconds?_eq_some {seconds start days : Int} {second : Nat} (hne : seconds ≠ 0)
    (hstart : m.clock.seconds + (if m.clock.isLeap && seconds < 0 then 1 else 0) = start)
    (htotal : start + seconds = days * secondsPerDay + second)
    (hsecond : second < secondsPerDay) :
    m.addSeconds? seconds = some m' ↔
      m'.date.dayNumber = m.date.dayNumber + days ∧ m'.clock.seconds = second ∧
        m'.clock.nanos = m.clock.subsecond := by
  have hday : (days * secondsPerDay + second) / secondsPerDay = days := by
    unfold secondsPerDay at *
    omega
  have hrest : ((days * secondsPerDay + second) % secondsPerDay).toNat = second := by
    unfold secondsPerDay at *
    omega
  obtain ⟨date, seconds', nanos, hseconds, hnanos⟩ := m'
  unfold addSeconds?
  rw [if_neg hne]
  simp only [hstart, htotal, hday, hrest, Option.map_eq_some_iff, Date.ofDayNumber?_eq_some,
    mk.injEq, Clock.mk.injEq]
  constructor
  · rintro ⟨_, hdate, rfl, rfl, rfl⟩
    exact ⟨hdate, rfl, rfl⟩
  · rintro ⟨hdate, rfl, rfl⟩
    exact ⟨date, hdate, rfl, rfl, rfl⟩

theorem addDays?_one : m.addDays? 1 = some m' ↔ m.DayLater m' := by
  have hne : (1 * secondsPerDay : Int) ≠ 0 := by decide
  have hforward : ¬(1 * secondsPerDay : Int) < 0 := by decide
  have hstart : (m.clock.seconds : Int) +
      (if m.clock.isLeap && (1 * secondsPerDay : Int) < 0 then 1 else 0) = m.clock.seconds := by
    simp only [hforward, decide_false, Bool.and_false, Bool.false_eq_true, if_false]
    rfl
  rw [addDays?, addSeconds?_eq_some hne hstart (Int.add_comm _ _) m.clock.seconds_lt,
    ← Date.next_iff]
  exact ⟨fun ⟨hdate, hseconds, hnanos⟩ => ⟨hdate, hseconds, hnanos⟩,
    fun ⟨hdate, hseconds, hnanos⟩ => ⟨hdate, hseconds, hnanos⟩⟩

theorem addDays?_neg_one : m.addDays? (-1) = some m' ↔ m.DayEarlier m' := by
  have hne : (-1 * secondsPerDay : Int) ≠ 0 := by decide
  have hbackward : (-1 * secondsPerDay : Int) < 0 := by decide
  have hstart : (m.clock.seconds : Int) +
      (if m.clock.isLeap && (-1 * secondsPerDay : Int) < 0 then 1 else 0) = m.clock.back := by
    simp only [hbackward, decide_true, Bool.and_true, Clock.back]
    split <;> rfl
  have hle := m.clock.back_le
  rw [addDays?]
  -- from behind the last second of the day one comes back to its first, on the same date
  by_cases hend : m.clock.back = secondsPerDay
  · have htotal : (m.clock.back : Int) + -1 * secondsPerDay =
        0 * secondsPerDay + (0 : Nat) := by
      rw [hend]
      decide
    rw [addSeconds?_eq_some hne hstart htotal (Nat.zero_lt_succ _), Int.add_zero]
    constructor
    · rintro ⟨hdate, hseconds, hnanos⟩
      exact .start hend (Date.dayNumber_injective hdate) hseconds hnanos
    · rintro (⟨_, hseconds, _⟩ | ⟨_, hdate, hseconds, hnanos⟩)
      · have := m'.clock.seconds_lt
        omega
      · exact ⟨congrArg Date.dayNumber hdate, hseconds, hnanos⟩
  · rw [addSeconds?_eq_some hne hstart (Int.add_comm _ _) (Nat.lt_of_le_of_ne hle hend)]
    constructor
    · rintro ⟨hdate, hseconds, hnanos⟩
      exact .before (Date.next_iff.mpr (by omega)) hseconds hnanos
    · rintro (⟨hdate, hseconds, hnanos⟩ | ⟨hend', _, _, _⟩)
      · exact ⟨by have := hdate.dayNumber_eq; omega, hseconds, hnanos⟩
      · exact absurd hend' hend

/-- A day later there is no moment just on the last date of the calendar. -/
theorem exists_dayLater_iff : (∃ m', m.DayLater m') ↔ m.date ≠ Date.last := by
  constructor
  · rintro ⟨m', hdate, _, _⟩ hlast
    exact Date.not_next_last _ (hlast ▸ hdate)
  · intro hne
    obtain ⟨d, hd⟩ := Date.exists_next hne
    exact ⟨⟨d, m.clock.seconds, m.clock.subsecond, m.clock.seconds_lt, m.clock.subsecond_lt_two⟩,
      hd, rfl, rfl⟩

/-- A day earlier there is no moment just on the first date of the calendar, behind its last second
apart. -/
theorem exists_dayEarlier_iff :
    (∃ m', m.DayEarlier m') ↔ m.date ≠ Date.first ∨ m.clock.back = secondsPerDay := by
  constructor
  · rintro ⟨m', ⟨hdate, _, _⟩ | ⟨hback, _, _, _⟩⟩
    · refine .inl ?_
      intro hfirst
      exact Date.not_next_first _ (hfirst ▸ hdate)
    · exact .inr hback
  · intro h
    by_cases hback : m.clock.back = secondsPerDay
    · exact ⟨⟨m.date, 0, m.clock.subsecond, Nat.zero_lt_succ _, m.clock.subsecond_lt_two⟩,
        .start hback rfl rfl rfl⟩
    · obtain ⟨d, hd⟩ := Date.exists_previous (h.resolve_right hback)
      exact ⟨⟨d, m.clock.back, m.clock.subsecond, Nat.lt_of_le_of_ne m.clock.back_le hback,
        m.clock.subsecond_lt_two⟩, .before hd rfl rfl⟩

end Moment

end FieldGuide.Calendar
