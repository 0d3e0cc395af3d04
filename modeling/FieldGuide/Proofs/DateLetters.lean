import Mathlib.Tactic.IntervalCases
import FieldGuide.Proofs.DayNumbers
import FieldGuide.Proofs.Rendering
set_option autoImplicit false

/-!
# What the date letters mean

A format of date letters becomes a pattern, and the pattern is read again to be rendered.  The text
that comes of it is the one that the format has when it is gone through letter by letter: each
letter stands for something that the moment itself tells, and everything else for itself.
-/

namespace FieldGuide

/-! ## Numbers of a fixed width -/

namespace Number

/-- The last figures of a number, one for each of its last places. -/
def lastFigures : (width : Nat) → Nat → List Char
  | 0, _ => []
  | width + 1, n => lastFigures width (n / 10) ++ [Nat.digitChar (n % 10)]

theorem lastFigures_zero (width : Nat) : lastFigures width 0 = List.replicate width '0' := by
  induction width with
  | zero => rfl
  | succ width ih =>
    rw [lastFigures, Nat.zero_div, ih, List.replicate_succ']
    rfl

/-- A number that fits a width and is padded with zeros to it has one figure for every place. -/
theorem padLeft_figures {width n : Nat} (hwidth : 0 < width) (hn : n < 10 ^ width) :
    Calendar.padLeft width '0' (figures n) = lastFigures width n := by
  induction width generalizing n with
  | zero => cases hwidth
  | succ width ih =>
    rw [lastFigures, Calendar.padLeft, figures]
    by_cases hsmall : n < 10
    · rw [Nat.toDigits_of_lt_base hsmall, Nat.div_eq_of_lt hsmall, Nat.mod_eq_of_lt hsmall,
        lastFigures_zero]
      rfl
    · have hwidth' : 0 < width := by
        refine Nat.pos_of_ne_zero ?_
        rintro rfl
        omega
      have hfront : n / 10 < 10 ^ width := by
        rw [Nat.pow_succ] at hn
        omega
      rw [Nat.toDigits_of_base_le (by decide) (Nat.le_of_not_lt hsmall), ← ih hwidth' hfront,
        Calendar.padLeft, figures, List.length_append, List.length_singleton,
        Nat.add_sub_add_right, List.append_assoc]

end Number

namespace Calendar

open Number

theorem padNumber_zero {width n : Nat} (hwidth : 0 < width) (hn : n < 10 ^ width) :
    padNumber .zero width false n = lastFigures width n := by
  rw [← padLeft_figures hwidth hn]
  rfl

/-! ## The meaning of the letters -/

namespace DateLetters

/-- A whole number, with a hyphen in front if it is negative. -/
def wholeText (n : Int) : List Char :=
  if n < 0 then '-' :: figures n.natAbs else figures n.natAbs

/-- A year in four figures, or in more if it takes them, with a sign if it is negative or has more
than four. -/
def yearText (year : Int) : List Char :=
  (if year < 0 then ['-'] else if 9999 < year then ['+'] else []) ++
    if year.natAbs < 10000 then lastFigures 4 year.natAbs else figures year.natAbs

/-- The hours of the half day count from 12, 1, 2 up to 11. -/
def halfDayHour (hour : Nat) : Nat := if hour % 12 = 0 then 12 else hour % 12

/-- The ending of the ordinal number of a day. -/
def dayEnding (day : Nat) : List Char :=
  if day = 1 ∨ day = 21 ∨ day = 31 then ['s', 't']
  else if day = 2 ∨ day = 22 then ['n', 'd']
  else if day = 3 ∨ day = 23 then ['r', 'd']
  else ['t', 'h']

/-- The days of the year before a date. -/
def daysBefore (d : Date) : Nat :=
  ((List.range (d.month - 1)).map fun i => monthLength d.year (i + 1)).sum + (d.day - 1)

/-- A time of day in hours, minutes and seconds. -/
def clockText (t : Clock) : List Char :=
  lastFigures 2 t.hour ++ ':' :: lastFigures 2 t.minute ++ ':' :: lastFigures 2 t.second

/-- A date and a time of day with a `T` between them. -/
def joinedText (d : Date) (t : Clock) : List Char :=
  yearText d.year ++ '-' :: lastFigures 2 d.month ++ '-' :: lastFigures 2 d.day ++
    'T' :: clockText t ++ "+00:00".toList

/-- A date and a time of day as a letter has them at its head. -/
def mailText (d : Date) (t : Clock) : List Char :=
  shortName (weekdayName d.weekday) ++ [',', ' '] ++ lastFigures 2 d.day ++
    ' ' :: shortName (monthName d.month) ++ ' ' :: yearText d.year ++ ' ' :: clockText t ++
    " +0000".toList

/-- What a character of a format stands for on a moment. -/
def meaning (m : Moment) (c : Char) : List Char :=
  let d := m.date
  let t := m.clock
  match c with
  | 'd' => lastFigures 2 d.day
  | 'D' => shortName (weekdayName d.weekday)
  | 'j' => figures d.day
  | 'l' => weekdayName d.weekday
  | 'N' => figures (d.weekday + 1)
  | 'w' => figures ((d.weekday + 1) % 7)
  | 'W' => lastFigures 2 d.isoWeek
  | 'F' => monthName d.month
  | 'm' => lastFigures 2 d.month
  | 'M' => shortName (monthName d.month)
  | 'n' => figures d.month
  | 'o' => yearText d.isoYear
  | 'Y' => yearText d.year
  | 'y' => lastFigures 2 (d.year % 100).toNat
  | 'a' => if t.hour < 12 then ['a', 'm'] else ['p', 'm']
  | 'A' => if t.hour < 12 then ['A', 'M'] else ['P', 'M']
  | 'g' => figures (halfDayHour t.hour)
  | 'G' => figures t.hour
  | 'h' => lastFigures 2 (halfDayHour t.hour)
  | 'H' => lastFigures 2 t.hour
  | 'i' => lastFigures 2 t.minute
  | 's' => lastFigures 2 t.second
  | 'u' => lastFigures 6 (t.subsecond / 1000)
  | 'v' => lastFigures 3 (t.subsecond / 1000000)
  | 'U' => wholeText m.timestamp
  | 'c' => joinedText d t
  | 'r' => mailText d t
  | 'S' => dayEnding d.day
  | 'z' => figures (daysBefore d)
  | 't' => figures (monthLength d.year d.month)
  | 'L' => if isLeap d.year then ['1'] else ['0']
  | 'e' => ['U', 'T', 'C']
  | 'T' => ['U', 'T', 'C']
  | 'P' => "+00:00".toList
  | 'p' => ['Z']
  | 'O' => "+0000".toList
  | 'Z' => ['0']
  | 'I' => ['0']
  | c => [c]

/-- A format gone through from the left.  A backslash makes the next character stand for itself, and
a last one for nothing. -/
def interpret (m : Moment) : List Char → List Char
  | [] => []
  | '\\' :: c :: cs => c :: interpret m cs
  | ['\\'] => []
  | c :: cs => meaning m c ++ interpret m cs

end DateLetters

/-! ## Patterns in a row -/

open Pattern

theorem render?_append (d : Date) (clock : Option Clock) (xs ys : List Item) :
    render? d clock (xs ++ ys) =
      (render? d clock xs).bind fun text => (render? d clock ys).map (text ++ ·) := by
  induction xs with
  | nil => simp [render?]
  | cons item items ih =>
    rw [List.cons_append, render?, render?, ih]
    cases item.text? d clock <;> cases render? d clock items <;>
      cases render? d clock ys <;> simp

/-- What follows a complete pattern is read by itself. -/
theorem Complete.read?_append {xs : List Char} (h : Complete xs) (ys : List Char) :
    read? (xs ++ ys) = (read? xs).bind fun items => (read? ys).map (items ++ ·) := by
  induction h with
  | nil => simp [read?]
  | @literal c cs hc _ ih =>
    rw [List.cons_append, read?_literal hc, read?_literal hc, ih]
    cases read? cs <;> simp [Function.comp_def]
  | @letter c cs hflag hfigures hletter _ ih =>
    obtain ⟨items, hitems⟩ := Option.isSome_iff_exists.mp hletter
    rw [List.cons_append, List.cons_append, read?_letter hflag hfigures hitems,
      read?_letter hflag hfigures hitems, ih]
    cases read? cs <;> simp [Function.comp_def]
  | @padded flag c cs hflag hnumber _ ih =>
    obtain ⟨pad, hpad⟩ := Option.isSome_iff_exists.mp hflag
    obtain ⟨⟨quantity, _⟩, hquantity⟩ := Option.isSome_iff_exists.mp hnumber
    rw [List.cons_append, List.cons_append, List.cons_append, read?_padded hpad hquantity,
      read?_padded hpad hquantity, ih]
    cases read? cs <;> simp [Function.comp_def]
  | @fraction d cs hflag hfigures _ ih =>
    obtain ⟨figures, hfig⟩ := Option.isSome_iff_exists.mp hfigures
    rw [List.cons_append, List.cons_append, List.cons_append, read?_fraction hflag hfig,
      read?_fraction hflag hfig, ih]
    cases read? cs <;> simp [Function.comp_def]

/-- A complete pattern that has this text on the moment. -/
def Shows (m : Moment) (pattern text : List Char) : Prop :=
  Complete pattern ∧ onMoment? pattern m = some text

theorem Shows.append {m : Moment} {xs ys a b : List Char} (hx : Shows m xs a)
    (hy : Shows m ys b) : Shows m (xs ++ ys) (a ++ b) := by
  refine ⟨hx.1.append hy.1, ?_⟩
  obtain ⟨items, hread, hrender⟩ := Option.bind_eq_some_iff.mp hx.2
  obtain ⟨later, hread', hrender'⟩ := Option.bind_eq_some_iff.mp hy.2
  rw [onMoment?, hx.1.read?_append, hread, hread', Option.bind_some, Option.map_some,
    Option.bind_some, render?_append, hrender, hrender']
  rfl

theorem shows_escape (m : Moment) (text : List Char) : Shows m (DateLetters.escape text) text := by
  induction text with
  | nil => exact ⟨.nil, rfl⟩
  | cons c cs ih =>
    have hc : Shows m (if c = '%' then ['%', '%'] else [c]) [c] := by
      split
      · rename_i hpercent
        subst hpercent
        exact ⟨.letter rfl rfl rfl .nil, rfl⟩
      · rename_i hne
        refine ⟨.literal hne .nil, ?_⟩
        rw [onMoment?, read?_literal hne]
        rfl
    exact hc.append ih

/-! ## Parts of a moment -/

section

variable (d : Date) (t : Clock)

theorem Clock.hour_lt : t.hour < 24 := by
  have hseconds := t.seconds_lt
  unfold secondsPerDay at hseconds
  unfold hour
  omega

theorem Clock.minute_lt : t.minute < 60 := Nat.mod_lt _ (by decide)

theorem Clock.second_le : t.second ≤ 60 := by
  have hnanos := t.nanos_lt
  unfold nanosPerSecond at hnanos
  unfold second nanosPerSecond
  omega

theorem Clock.subsecond_lt : t.subsecond < 1000000000 := Nat.mod_lt _ (by decide)

theorem padLeft_four (n : Nat) : padLeft 4 '0' (figures n) =
    if n < 10000 then lastFigures 4 n else figures n := by
  split
  · rename_i hfour
    exact padLeft_figures (by decide) hfour
  · rename_i hmore
    have hlength : 4 < (figures n).length := by
      refine Nat.lt_of_not_le ?_
      intro hshort
      exact hmore ((Nat.length_toDigits_le_iff (by decide) (by decide)).mp hshort)
    rw [padLeft, Nat.sub_eq_zero_of_le hlength.le]
    rfl

theorem padYear_zero (year : Int) : padYear .zero year = DateLetters.yearText year := by
  rw [padYear, DateLetters.yearText, ← padLeft_four]
  by_cases hneg : year < 0
  · rw [if_neg (show ¬(0 ≤ year ∧ year ≤ 9999) by omega), if_pos hneg, padNumber, signOf,
      if_pos hneg]
    rfl
  · by_cases hmore : 9999 < year
    · rw [if_neg (show ¬(0 ≤ year ∧ year ≤ 9999) by omega), if_neg hneg, if_pos hmore, padNumber,
        signOf, if_neg hneg]
      rfl
    · rw [if_pos (show 0 ≤ year ∧ year ≤ 9999 by omega), if_neg hneg, if_neg hmore, padNumber,
        signOf, if_neg hneg]
      rfl

theorem text?_year : (plain .year).text? d (some t) = some (DateLetters.yearText d.year) :=
  congrArg some (padYear_zero d.year)

theorem text?_month : (plain .month).text? d (some t) = some (lastFigures 2 d.month) :=
  congrArg some (padNumber_zero (by decide) (by have := d.month_le; omega))

theorem text?_day : (plain .day).text? d (some t) = some (lastFigures 2 d.day) :=
  congrArg some (padNumber_zero (by decide) (by have := d.day_le; omega))

theorem text?_hour : (plain .hour).text? d (some t) = some (lastFigures 2 t.hour) :=
  congrArg some (padNumber_zero (by decide) (by have := t.hour_lt; omega))

theorem text?_minute : (plain .minute).text? d (some t) = some (lastFigures 2 t.minute) :=
  congrArg some (padNumber_zero (by decide) (by have := t.minute_lt; omega))

theorem text?_second : (plain .second).text? d (some t) = some (lastFigures 2 t.second) :=
  congrArg some (padNumber_zero (by decide) (by have := t.second_le; omega))

theorem halfDayHour_eq (hour : Nat) : (hour + 11) % 12 + 1 = DateLetters.halfDayHour hour := by
  unfold DateLetters.halfDayHour
  split <;> omega

theorem text?_hour12 (pad : Pad) : (Item.number .hour12 pad).text? d (some t) =
    some (padNumber pad 2 false (DateLetters.halfDayHour t.hour : Nat)) := by
  rw [← halfDayHour_eq]
  rfl

theorem text?_isoWeek : (plain .isoWeek).text? d (some t) = some (lastFigures 2 d.isoWeek) :=
  congrArg some (padNumber_zero (by decide) (by have := d.isoWeek_le; omega))

theorem text?_yearOfCentury :
    (plain .yearOfCentury).text? d (some t) = some (lastFigures 2 (d.year % 100).toNat) := by
  have hnat : d.year % 100 = ((d.year % 100).toNat : Int) := by omega
  have htext := @padNumber_zero 2 (d.year % 100).toNat (by decide) (by omega)
  rw [← hnat] at htext
  exact congrArg some htext

theorem text?_fraction {figures : Nat} (hpos : 0 < figures) (hle : figures ≤ 9) :
    (Item.fraction figures).text? d (some t) =
      some (lastFigures figures (t.subsecond / 10 ^ (9 - figures))) := by
  refine congrArg some (padNumber_zero hpos ?_)
  have hpower : 10 ^ figures * 10 ^ (9 - figures) = 1000000000 := by
    rw [← Nat.pow_add, Nat.add_sub_cancel' hle]
  rw [Nat.div_lt_iff_lt_mul (Nat.pow_pos (by decide)), hpower]
  exact t.subsecond_lt

end

/-! ## Letters with a pattern -/

variable (m : Moment)

theorem onMoment?_of_item {m : Moment} {pattern text : List Char} {item : Item}
    (hread : read? pattern = some [item])
    (htext : item.text? m.date (some m.clock) = some text) : onMoment? pattern m = some text := by
  rw [onMoment?, hread, Option.bind_some, render?, htext]
  simp [render?]

theorem onMoment?_twelfth :
    onMoment? "%I".toList m = some (lastFigures 2 (DateLetters.halfDayHour m.clock.hour)) := by
  have hle : DateLetters.halfDayHour m.clock.hour < 10 ^ 2 := by
    unfold DateLetters.halfDayHour
    split <;> omega
  rw [← padNumber_zero (by decide) hle]
  exact onMoment?_of_item rfl (text?_hour12 _ _ _)

theorem onMoment?_timestamp :
    onMoment? "%s".toList m = some (DateLetters.wholeText m.timestamp) := by
  refine onMoment?_of_item rfl (congrArg some ?_)
  change signOf false m.timestamp ++ figures m.timestamp.natAbs = _
  unfold DateLetters.wholeText signOf
  split <;> rfl

theorem render?_cons {d : Date} {clock : Option Clock} {item : Item} {items : List Item}
    {text rest : List Char} (htext : item.text? d clock = some text)
    (hrest : render? d clock items = some rest) :
    render? d clock (item :: items) = some (text ++ rest) := by
  rw [render?, htext, hrest]
  rfl

theorem render?_literals (d : Date) (clock : Option Clock) (text : List Char) :
    render? d clock (text.map .literal) = some text := by
  induction text with
  | nil => rfl
  | cons c cs ih => exact render?_cons (show (Item.literal c).text? d clock = some [c] from rfl) ih

theorem onMoment?_joined :
    onMoment? "%Y-%m-%dT%H:%M:%S+00:00".toList m =
      some (DateLetters.joinedText m.date m.clock) := by
  have hread : read? "%Y-%m-%dT%H:%M:%S+00:00".toList =
      some (plain .year :: .literal '-' :: plain .month :: .literal '-' :: plain .day ::
        .literal 'T' :: plain .hour :: .literal ':' :: plain .minute :: .literal ':' ::
        plain .second :: "+00:00".toList.map .literal) := rfl
  rw [onMoment?, hread, Option.bind_some]
  refine (render?_cons (text?_year _ _) (render?_cons rfl (render?_cons (text?_month _ _)
    (render?_cons rfl (render?_cons (text?_day _ _) (render?_cons rfl
      (render?_cons (text?_hour _ _) (render?_cons rfl (render?_cons (text?_minute _ _)
        (render?_cons rfl (render?_cons (text?_second _ _)
          (render?_literals _ _ _)))))))))))).trans ?_
  simp only [DateLetters.joinedText, DateLetters.clockText, List.append_assoc, List.cons_append,
    List.nil_append]

theorem onMoment?_mail :
    onMoment? "%a, %d %b %Y %H:%M:%S +0000".toList m =
      some (DateLetters.mailText m.date m.clock) := by
  have hread : read? "%a, %d %b %Y %H:%M:%S +0000".toList =
      some (.weekday true :: .literal ',' :: .literal ' ' :: plain .day :: .literal ' ' ::
        .month true :: .literal ' ' :: plain .year :: .literal ' ' :: plain .hour ::
        .literal ':' :: plain .minute :: .literal ':' :: plain .second ::
        " +0000".toList.map .literal) := rfl
  rw [onMoment?, hread, Option.bind_some]
  refine (render?_cons rfl (render?_cons rfl (render?_cons rfl (render?_cons (text?_day _ _)
    (render?_cons rfl (render?_cons rfl (render?_cons rfl (render?_cons (text?_year _ _)
      (render?_cons rfl (render?_cons (text?_hour _ _) (render?_cons rfl
        (render?_cons (text?_minute _ _) (render?_cons rfl
          (render?_cons (text?_second _ _) (render?_literals _ _ _))))))))))))))).trans ?_
  simp only [DateLetters.mailText, DateLetters.clockText, Item.nameText, if_true,
    List.append_assoc, List.cons_append, List.nil_append]

/-- The pattern of a letter has the text that the letter stands for. -/
theorem onMoment?_pattern {c : Char} {pattern : String}
    (h : DateLetters.pattern? c = some pattern) :
    onMoment? pattern.toList m = some (DateLetters.meaning m c) := by
  unfold DateLetters.pattern? at h
  split at h <;> cases h
  -- d D j l N w W
  · exact onMoment?_of_item rfl (text?_day _ _)
  · exact onMoment?_of_item rfl rfl
  · exact onMoment?_of_item rfl rfl
  · exact onMoment?_of_item rfl rfl
  · exact onMoment?_of_item rfl rfl
  · exact onMoment?_of_item rfl rfl
  · exact onMoment?_of_item rfl (text?_isoWeek _ _)
  -- F m M n o Y y
  · exact onMoment?_of_item rfl rfl
  · exact onMoment?_of_item rfl (text?_month _ _)
  · exact onMoment?_of_item rfl rfl
  · exact onMoment?_of_item rfl rfl
  · exact onMoment?_of_item rfl (congrArg some (padYear_zero _))
  · exact onMoment?_of_item rfl (text?_year _ _)
  · exact onMoment?_of_item rfl (text?_yearOfCentury _ _)
  -- a A g G h H i s
  · exact onMoment?_of_item rfl rfl
  · exact onMoment?_of_item rfl rfl
  · exact onMoment?_of_item rfl (text?_hour12 _ _ _)
  · exact onMoment?_of_item rfl rfl
  · exact onMoment?_twelfth m
  · exact onMoment?_of_item rfl (text?_hour _ _)
  · exact onMoment?_of_item rfl (text?_minute _ _)
  · exact onMoment?_of_item rfl (text?_second _ _)
  -- u v U c r
  · exact onMoment?_of_item rfl (text?_fraction _ _ (by decide) (by decide))
  · exact onMoment?_of_item rfl (text?_fraction _ _ (by decide) (by decide))
  · exact onMoment?_timestamp m
  · exact onMoment?_joined m
  · exact onMoment?_mail m

/-! ## Characters without a pattern -/

theorem ordinalSuffix_eq {day : Nat} (h : day ≤ 31) :
    (DateLetters.ordinalSuffix day).toList = DateLetters.dayEnding day := by
  interval_cases day <;> rfl

theorem ordinal0_eq (d : Date) : d.ordinal0 = DateLetters.daysBefore d := by
  obtain ⟨month, hmonth⟩ := Nat.exists_eq_add_of_le' d.month_pos
  rw [Date.ordinal0, DateLetters.daysBefore, hmonth, daysBeforeMonth_eq_sum, Nat.add_sub_cancel]

/-- A year has a 29 February just if it is a leap year. -/
theorem isSome_leapDay (d : Date) : (Date.of? d.year 2 29).isSome = isLeap d.year := by
  have hyear := d.inCalendar.1
  unfold Date.of?
  cases hleap : isLeap d.year <;> simp [InCalendar, monthLength, hleap, hyear]

/-- A character without a pattern has the text that it stands for. -/
theorem literal_eq {c : Char} (h : DateLetters.pattern? c = none) :
    DateLetters.literal m c = DateLetters.meaning m c := by
  have hmonth := m.date.inCalendar.2.1
  unfold DateLetters.literal
  split
  -- S z t L
  · exact ordinalSuffix_eq m.date.day_le
  · exact congrArg figures (ordinal0_eq m.date)
  · exact congrArg figures (daysInMonth_eq m.date.inCalendar.1 hmonth)
  · rw [isSome_leapDay]
    rfl
  -- e T P p O Z I
  iterate 7 exact rfl
  · unfold DateLetters.meaning
    split <;> first | rfl | contradiction

theorem shows_toPattern (format : List Char) :
    Shows m (DateLetters.toPattern m format) (DateLetters.interpret m format) := by
  induction format using DateLetters.toPattern.induct with
  | case1 => exact ⟨.nil, rfl⟩
  | case2 c cs ih => exact (shows_escape m [c]).append ih
  | case3 => exact ⟨.nil, rfl⟩
  | case4 c cs hpair hlast ih =>
    rw [DateLetters.toPattern, DateLetters.interpret]
    · refine Shows.append ?_ ih
      split
      · rename_i pattern hpattern
        exact ⟨complete_pattern hpattern, onMoment?_pattern m hpattern⟩
      · rename_i hnone
        rw [← literal_eq m hnone]
        exact shows_escape m _
    all_goals assumption

/-- Making a pattern of a format and rendering it on a moment comes to the same as going through
the format and writing down what each character stands for: it never fails, whatever the format and
the moment are. -/
theorem format?_eq_interpret (format : List Char) (m : Moment) :
    DateLetters.format? format m = some (DateLetters.interpret m format) :=
  (shows_toPattern m format).2

end Calendar

end FieldGuide
