import Mathlib.Data.List.DropRight
import FieldGuide.Proofs.DateLetters
import FieldGuide.Proofs.Decimals
import FieldGuide.Proofs.Findings
set_option autoImplicit false

/-!
# Dates in figures, written and read

A date and a time of day are written in three layouts, and each layout reads what it has written.
No text is read in two of them.  So the first layout that reads a text is the only one, and a date
in figures is never taken for a phrase.
-/

namespace FieldGuide

open Number

/-! ## Figures that are read -/

namespace Number

theorem isDigit_digitChar {n : Nat} (h : n < 10) : (Nat.digitChar n).isDigit = true := by
  revert n
  decide

theorem isDigit_of_mem_lastFigures {width n : Nat} {c : Char} (h : c ∈ lastFigures width n) :
    c.isDigit = true := by
  induction width generalizing n with
  | zero => cases h
  | succ width ih =>
    rw [lastFigures, List.mem_append, List.mem_singleton] at h
    rcases h with h | rfl
    · exact ih h
    · exact isDigit_digitChar (Nat.mod_lt n (by decide))

theorem length_lastFigures (width n : Nat) : (lastFigures width n).length = width := by
  induction width generalizing n with
  | zero => rfl
  | succ width ih => rw [lastFigures, List.length_append, ih, List.length_singleton]

theorem ofFigures_digitChar {n : Nat} (h : n < 10) : ofFigures [Nat.digitChar n] = n := by
  revert n
  decide

/-- The number of the last figures, if no figure in front of them is lost. -/
theorem ofFigures_lastFigures {width n : Nat} (h : n < 10 ^ width) :
    ofFigures (lastFigures width n) = n := by
  induction width generalizing n with
  | zero => rw [Nat.lt_one_iff.mp h]; rfl
  | succ width ih =>
    rw [Nat.pow_succ] at h
    rw [lastFigures, ofFigures_append, ih (by omega), List.length_singleton, Nat.pow_one,
      ofFigures_digitChar (Nat.mod_lt n (by decide))]
    omega

end Number

namespace Calendar

/-! ## A time of day as it is shown -/

namespace Clock

variable (c : Clock)

/-- The time of day has no fraction: it is a whole second, or the extra second behind second 59. -/
def IsWhole : Prop := c.nanos = 0 ∨ c.nanos = nanosPerSecond ∧ c.seconds % 60 = 59

theorem nanosPerSecond_lt : nanosPerSecond < 2 * nanosPerSecond := by decide

variable {c} in
/-- The second that is shown belongs to the day. -/
theorem seconds_add_lt (h : c.second ≠ 60) :
    c.seconds + c.nanos / nanosPerSecond < secondsPerDay := by
  have hseconds := c.seconds_lt
  have hnanos := c.nanos_lt
  unfold second nanosPerSecond at *
  unfold secondsPerDay at *
  omega

/-- The time of day at the second that is shown. -/
def shown : Clock :=
  if h : c.second = 60 then ⟨c.seconds, nanosPerSecond, c.seconds_lt, nanosPerSecond_lt⟩
  else ⟨c.seconds + c.nanos / nanosPerSecond, 0, seconds_add_lt h, midnight.nanos_lt⟩

theorem shown_of_isWhole (h : c.IsWhole) : c.shown = c := by
  obtain ⟨seconds, nanos, hseconds, hnanos⟩ := c
  unfold shown second
  rcases h with h | ⟨h, hlast⟩
  · obtain rfl : nanos = 0 := h
    have hsecond : ¬seconds % 60 + 0 / nanosPerSecond = 60 := by
      rw [Nat.zero_div]
      omega
    rw [dif_neg hsecond]
    simp only [Nat.zero_div, Nat.add_zero]
  · obtain rfl : nanos = nanosPerSecond := h
    have hsecond : seconds % 60 + nanosPerSecond / nanosPerSecond = 60 := by
      rw [Nat.div_self (by decide)]
      exact congrArg (· + 1) hlast
    rw [dif_pos hsecond]

theorem extra_le : c.nanos / nanosPerSecond ≤ 1 :=
  Nat.le_of_lt_succ (Nat.div_lt_of_lt_mul (Nat.mul_comm _ _ ▸ c.nanos_lt))

theorem isWhole_shown : c.shown.IsWhole := by
  have hextra := c.extra_le
  unfold shown
  split
  · rename_i hsixty
    unfold second at hsixty
    exact .inr ⟨rfl, by dsimp only; omega⟩
  · exact .inl rfl

/-- A time of day is shown in full just if it has no fraction. -/
theorem shown_eq_self_iff : c.shown = c ↔ c.IsWhole :=
  ⟨fun h => h ▸ c.isWhole_shown, c.shown_of_isWhole⟩

theorem seconds_eq : c.hour * 3600 + c.minute * 60 + c.second =
    c.seconds + c.nanos / nanosPerSecond := by
  unfold hour minute second
  omega

theorem shown_parts :
    c.shown.hour = c.hour ∧ c.shown.minute = c.minute ∧ c.shown.second = c.second := by
  have hextra := c.extra_le
  unfold shown
  split
  · rename_i hsixty
    refine ⟨rfl, rfl, ?_⟩
    unfold second at *
    rw [hsixty]
    dsimp only
    rw [Nat.div_self (by decide)]
    omega
  · rename_i hnot
    unfold second at hnot
    have hminutes : (c.seconds + c.nanos / nanosPerSecond) / 60 = c.seconds / 60 := by
      generalize c.nanos / nanosPerSecond = extra at *
      omega
    have hhours : (c.seconds + c.nanos / nanosPerSecond) / 3600 = c.seconds / 3600 := by
      rw [← Nat.div_div_eq_div_mul _ 60 60, hminutes, Nat.div_div_eq_div_mul]
    refine ⟨hhours, congrArg (· % 60) hminutes, ?_⟩
    unfold second
    dsimp only
    rw [Nat.zero_div]
    omega

/-- The hour, the minute and the second of a time of day make up the one that is shown. -/
theorem ofLeap?_parts : ofLeap? c.hour c.minute c.second 0 = some c.shown := by
  have hseconds := c.seconds_eq
  have hextra := c.extra_le
  unfold ofLeap? shown
  by_cases hsixty : c.second = 60
  · have hlast : c.hour * 3600 + c.minute * 60 + 59 = c.seconds := by
      unfold second at hsixty hseconds
      omega
    rw [if_pos hsixty, dif_pos hsixty, of?,
      dif_pos ⟨c.hour_lt, c.minute_lt, by decide, by decide⟩]
    simp only [hlast, Nat.zero_add]
  · have hsecond : c.second < 60 := Nat.lt_of_le_of_ne c.second_le hsixty
    rw [if_neg hsixty, dif_neg hsixty, if_pos (by decide), of?,
      dif_pos ⟨c.hour_lt, c.minute_lt, hsecond, by decide⟩]
    simp only [hseconds]

end Clock

namespace Iso

open Pattern (plain render?)

variable {α β : Type}

/-! ## Readers in a row -/

theorem bind_of_read {read : Reader α} {f : α → Reader β} {cs rest : List Char} {a : α}
    (h : read cs = some (a, rest)) : (read >>= f) cs = f a rest := by
  change (read cs).bind _ = _
  rw [h]
  rfl

theorem read_get (cs : List Char) : (get : Reader (List Char)) cs = some (cs, cs) := rfl

theorem read_set (rest cs : List Char) : (set rest : Reader PUnit) cs = some ((), rest) := rfl

theorem char_cons (c : Char) (rest : List Char) : char c (c :: rest) = some ((), rest) :=
  if_pos rfl

theorem skipSpaces_cons {c : Char} (h : Text.isSpace c = false) (rest : List Char) :
    skipSpaces (c :: rest) = some ((), c :: rest) :=
  congrArg (fun cs => some ((), cs)) (Text.trimStart_of_not_isSpace h rest)

theorem skipSpaces_space {c : Char} (h : Text.isSpace c = true) (rest : List Char) :
    skipSpaces (c :: rest) = skipSpaces rest :=
  congrArg (fun cs => some ((), cs)) (Text.trimStart_of_isSpace h rest)

theorem bind_eq_some {read : Reader α} {f : α → Reader β} {cs : List Char}
    {r : β × List Char} :
    (read >>= f) cs = some r ↔ ∃ a rest, read cs = some (a, rest) ∧ f a rest = some r :=
  Option.bind_eq_some_iff.trans Prod.exists

theorem all?_eq_some {read : Reader α} {cs : List Char} {a : α} :
    all? read cs = some a ↔ read cs = some (a, []) := by
  unfold all?
  split
  · rename_i h
    rw [h]
    simp
  · rename_i h
    refine iff_of_false nofun ?_
    intro hread
    exact h a hread

theorem eq_cons_of_char {c : Char} {cs rest : List Char} (h : char c cs = some ((), rest)) :
    cs = c :: rest := by
  unfold char at h
  split at h
  · cases h
  · split at h
    · cases h
      subst_vars
      rfl
    · cases h

theorem exists_digit_of_digits {width n : Nat} {cs rest : List Char}
    (h : digits width cs = some (n, rest)) : ∃ c later, cs = c :: later ∧ c.isDigit = true := by
  cases cs with
  | nil =>
    rw [digits, List.take_nil] at h
    cases h
  | cons c later =>
    refine ⟨c, later, rfl, ?_⟩
    cases width with
    | zero => cases h
    | succ width =>
      by_contra hc
      rw [digits, List.take_succ_cons, List.takeWhile_cons_of_neg hc] at h
      cases h

/-- A short number begins with a figure behind the spaces. -/
theorem exists_digit_of_short {n : Nat} {cs rest : List Char}
    (h : short cs = some (n, rest)) :
    ∃ c later, Text.trimStart cs = c :: later ∧ c.isDigit = true := by
  obtain ⟨_, rest', hspaces, hdigits⟩ := bind_eq_some.mp h
  cases hspaces
  exact exists_digit_of_digits hdigits

/-- As many figures are read as there are before a hyphen. -/
theorem anyDigits_append {figures : List Char} (hne : figures ≠ [])
    (hdigit : ∀ c ∈ figures, c.isDigit = true) (rest : List Char) :
    anyDigits (figures ++ '-' :: rest) = some (ofFigures figures, '-' :: rest) := by
  obtain ⟨c, cs, rfl⟩ := List.exists_cons_of_ne_nil hne
  have hhyphen : EndsFigures ('-' :: rest) := endsFigures_cons (by decide) rest
  unfold anyDigits
  rw [takeWhile_isDigit_append hdigit hhyphen, dropWhile_isDigit_append hdigit hhyphen]

/-- As many figures are read as are asked for. -/
theorem digits_append {figures : List Char} {width : Nat} (hne : figures ≠ [])
    (hdigit : ∀ c ∈ figures, c.isDigit = true) (hlength : figures.length = width)
    (rest : List Char) : digits width (figures ++ rest) = some (ofFigures figures, rest) := by
  obtain ⟨c, cs, rfl⟩ := List.exists_cons_of_ne_nil hne
  have htake : (((c :: cs) ++ rest).take width).takeWhile Char.isDigit = c :: cs := by
    rw [List.take_left' hlength]
    exact List.takeWhile_eq_self_iff.mpr hdigit
  unfold digits
  rw [htake]
  exact congrArg (fun rest => some (_, rest)) List.drop_left

theorem lastFigures_ne_nil {width : Nat} (hpos : 0 < width) (n : Nat) : lastFigures width n ≠ [] :=
  List.ne_nil_of_length_pos (by rwa [length_lastFigures])

theorem exists_lastFigures_eq_cons {width : Nat} (hpos : 0 < width) (n : Nat) :
    ∃ c cs, lastFigures width n = c :: cs ∧ c.isDigit = true := by
  obtain ⟨c, cs, h⟩ := List.exists_cons_of_ne_nil (lastFigures_ne_nil hpos n)
  exact ⟨c, cs, h, isDigit_of_mem_lastFigures (h ▸ List.mem_cons_self)⟩

theorem digits_lastFigures {width n : Nat} (hpos : 0 < width) (hn : n < 10 ^ width)
    (rest : List Char) : digits width (lastFigures width n ++ rest) = some (n, rest) := by
  rw [digits_append (lastFigures_ne_nil hpos n) (fun _ => isDigit_of_mem_lastFigures)
    (length_lastFigures width n), ofFigures_lastFigures hn]

/-- No spaces are skipped in front of figures. -/
theorem skipSpaces_lastFigures {width : Nat} (hpos : 0 < width) (n : Nat) (rest : List Char) :
    skipSpaces (lastFigures width n ++ rest) = some ((), lastFigures width n ++ rest) := by
  obtain ⟨c, cs, hfigures, hc⟩ := exists_lastFigures_eq_cons hpos n
  rw [hfigures]
  exact skipSpaces_cons (Text.isSpace_of_isDigit hc) _

theorem short_lastFigures {n : Nat} (hn : n < 100) (rest : List Char) :
    short (lastFigures 2 n ++ rest) = some (n, rest) :=
  (bind_of_read (skipSpaces_lastFigures (by decide) n rest)).trans
    (digits_lastFigures (by decide) hn rest)

/-! ## Years -/

/-- The figures of a year, four of them at least. -/
def yearFigures (n : Nat) : List Char := if n < 10000 then lastFigures 4 n else figures n

theorem yearFigures_spec (n : Nat) : yearFigures n ≠ [] ∧
    (∀ c ∈ yearFigures n, c.isDigit = true) ∧ ofFigures (yearFigures n) = n := by
  unfold yearFigures
  split
  · rename_i hfour
    exact ⟨lastFigures_ne_nil (by decide) n, fun _ => isDigit_of_mem_lastFigures,
      ofFigures_lastFigures hfour⟩
  · exact ⟨List.ne_nil_of_length_pos (length_figures_pos n), fun _ => isDigit_of_mem_figures,
      ofFigures_figures n⟩

theorem anyDigits_yearFigures (n : Nat) (rest : List Char) :
    anyDigits (yearFigures n ++ '-' :: rest) = some (n, '-' :: rest) := by
  obtain ⟨hne, hdigit, hvalue⟩ := yearFigures_spec n
  rw [anyDigits_append hne hdigit, hvalue]

theorem year_of_minus {cs rest : List Char} {n : Nat} (h : anyDigits cs = some (n, rest)) :
    year ('-' :: cs) = some (-(n : Int), rest) := by
  unfold year
  rw [bind_of_read (skipSpaces_cons (by decide) cs), bind_of_read (read_get _)]
  exact (bind_of_read (read_set cs _)).trans (bind_of_read h)

theorem year_of_plus {cs rest : List Char} {n : Nat} (h : anyDigits cs = some (n, rest)) :
    year ('+' :: cs) = some ((n : Int), rest) := by
  unfold year
  rw [bind_of_read (skipSpaces_cons (by decide) cs), bind_of_read (read_get _)]
  exact (bind_of_read (read_set cs _)).trans (bind_of_read h)

/-- A year that begins with a figure has no sign. -/
theorem year_eq_of_isDigit {c : Char} (hc : c.isDigit = true) (cs : List Char) :
    year (c :: cs) = (digits 4 >>= fun n => pure (n : Int)) (c :: cs) := by
  unfold year
  rw [bind_of_read (skipSpaces_cons (Text.isSpace_of_isDigit hc) cs),
    bind_of_read (read_get _)]
  refine congrFun (?_ : _ = digits 4 >>= fun n => pure (n : Int)) _
  split
  · cases ‹_ = _›
    contradiction
  · cases ‹_ = _›
    contradiction
  · rfl

theorem year_of_isDigit {c : Char} {cs rest : List Char} {n : Nat} (hc : c.isDigit = true)
    (h : digits 4 (c :: cs) = some (n, rest)) : year (c :: cs) = some ((n : Int), rest) :=
  (year_eq_of_isDigit hc cs).trans (bind_of_read h)

/-- A year is read up to the hyphen behind it: a sign lets it have any number of figures, and
without one it has four. -/
theorem year_yearText (y : Int) (rest : List Char) :
    year (DateLetters.yearText y ++ '-' :: rest) = some (y, '-' :: rest) := by
  change year ((_ ++ yearFigures y.natAbs) ++ '-' :: rest) = _
  have hfigures := anyDigits_yearFigures y.natAbs rest
  rw [List.append_assoc]
  by_cases hneg : y < 0
  · rw [if_pos hneg, List.singleton_append, year_of_minus hfigures,
      Int.ofNat_natAbs_of_nonpos hneg.le, neg_neg]
  · by_cases hmore : 9999 < y
    · rw [if_neg hneg, if_pos hmore, List.singleton_append, year_of_plus hfigures,
        Int.natAbs_of_nonneg (by omega)]
    · have hfour : y.natAbs < 10 ^ 4 := by omega
      obtain ⟨c, cs, hcons, hc⟩ := @exists_lastFigures_eq_cons 4 (by decide) y.natAbs
      have hread := digits_lastFigures (by decide) hfour ('-' :: rest)
      rw [if_neg hneg, if_neg hmore, List.nil_append, yearFigures, if_pos (by omega)]
      rw [hcons, List.cons_append] at hread ⊢
      rw [year_of_isDigit hc hread, Int.natAbs_of_nonneg (by omega)]

/-! ## Dates and times of day -/

/-- A date in figures. -/
def dateText (d : Date) : List Char :=
  DateLetters.yearText d.year ++ '-' :: lastFigures 2 d.month ++ '-' :: lastFigures 2 d.day

theorem exists_yearText_eq_cons (y : Int) :
    ∃ c cs, DateLetters.yearText y = c :: cs ∧ Text.isSpace c = false := by
  obtain ⟨hne, hdigit, -⟩ := yearFigures_spec y.natAbs
  obtain ⟨c, cs, hcons⟩ := List.exists_cons_of_ne_nil hne
  change ∃ c cs, _ ++ yearFigures y.natAbs = c :: cs ∧ _
  split
  · exact ⟨'-', _, rfl, by decide⟩
  · split
    · exact ⟨'+', _, rfl, by decide⟩
    · exact ⟨c, cs, hcons, Text.isSpace_of_isDigit (hdigit c (hcons ▸ List.mem_cons_self))⟩

theorem date_dateText (d : Date) (rest : List Char) :
    date (dateText d ++ rest) = some (d, rest) := by
  unfold date dateText
  simp only [List.append_assoc, List.cons_append]
  rw [bind_of_read (year_yearText d.year _), bind_of_read (char_cons '-' _),
    bind_of_read (short_lastFigures (d.month_le.trans_lt (by decide)) _),
    bind_of_read (char_cons '-' _),
    bind_of_read (short_lastFigures (d.day_le.trans_lt (by decide)) _), d.of?_self]
  rfl

theorem clock_clockText (c : Clock) (rest : List Char) :
    clock (DateLetters.clockText c ++ rest) = some (c.shown, rest) := by
  unfold clock DateLetters.clockText
  simp only [List.append_assoc, List.cons_append]
  rw [bind_of_read (short_lastFigures (c.hour_lt.trans (by decide)) _),
    bind_of_read (char_cons ':' _),
    bind_of_read (short_lastFigures (c.minute_lt.trans (by decide)) _),
    bind_of_read (char_cons ':' _),
    bind_of_read (short_lastFigures (c.second_le.trans_lt (by decide)) _), c.ofLeap?_parts]
  rfl

theorem moment_of_between {between : Reader Unit} {m : Moment} {rest : List Char}
    (h : between rest = some ((), DateLetters.clockText m.clock)) :
    moment between (dateText m.date ++ rest) = some (⟨m.date, m.clock.shown⟩, []) := by
  have hclock := clock_clockText m.clock []
  rw [List.append_nil] at hclock
  unfold moment
  rw [bind_of_read (date_dateText m.date rest), bind_of_read h, bind_of_read hclock]
  rfl

/-! ## Dates and times of day as patterns have them -/

theorem render?_dateText (d : Date) (clock : Option Clock) :
    render? d clock [plain .year, .literal '-', plain .month, .literal '-', plain .day] =
      some (dateText d) := by
  have hyear : (plain .year).text? d clock = some (DateLetters.yearText d.year) :=
    text?_year d .midnight
  have hmonth : (plain .month).text? d clock = some (lastFigures 2 d.month) :=
    text?_month d .midnight
  have hday : (plain .day).text? d clock = some (lastFigures 2 d.day) := text?_day d .midnight
  refine (render?_cons hyear (render?_cons rfl (render?_cons hmonth (render?_cons rfl
    (render?_cons hday rfl))))).trans ?_
  simp [dateText]

theorem render?_clockText (d : Date) (c : Clock) :
    render? d (some c)
        [plain .hour, .literal ':', plain .minute, .literal ':', plain .second] =
      some (DateLetters.clockText c) := by
  refine (render?_cons (text?_hour d c) (render?_cons rfl (render?_cons (text?_minute d c)
    (render?_cons rfl (render?_cons (text?_second d c) rfl))))).trans ?_
  simp [DateLetters.clockText]

/-! ## Layouts -/

/-- The layouts of dates in figures. -/
inductive Layout where
  /-- a date and a time of day, with a space between them -/
  | spaced
  /-- a date and a time of day, with a `T` between them -/
  | joined
  | dateOnly
  deriving DecidableEq, Repr

namespace Layout

/-- The pattern in which the layout is written. -/
def pattern : Layout → String
  | spaced => "%Y-%m-%d %H:%M:%S"
  | joined => "%Y-%m-%dT%H:%M:%S"
  | dateOnly => "%Y-%m-%d"

/-- The moment that a text names in the layout. -/
def read? : Layout → List Char → Option Moment
  | spaced => spaced?
  | joined => joined?
  | dateOnly => dateOnly?

/-- A moment in the layout. -/
def text (m : Moment) : Layout → List Char
  | spaced => dateText m.date ++ ' ' :: DateLetters.clockText m.clock
  | joined => dateText m.date ++ 'T' :: DateLetters.clockText m.clock
  | dateOnly => dateText m.date

/-- The moment that is left when the layout leaves out what it does not show. -/
def kept (m : Moment) : Layout → Moment
  | spaced => ⟨m.date, m.clock.shown⟩
  | joined => ⟨m.date, m.clock.shown⟩
  | dateOnly => .ofDate m.date

theorem exists_text_eq_cons (l : Layout) (m : Moment) :
    ∃ c cs, l.text m = c :: cs ∧ Text.isSpace c = false := by
  obtain ⟨c, cs, hyear, hc⟩ := exists_yearText_eq_cons m.date.year
  cases l <;> simp [text, dateText, hyear, hc]

theorem exists_text_eq_append (l : Layout) (m : Moment) :
    ∃ front n, l.text m = front ++ lastFigures 2 n := by
  cases l with
  | spaced =>
    exact ⟨dateText m.date ++ ' ' :: (lastFigures 2 m.clock.hour ++
      ':' :: lastFigures 2 m.clock.minute ++ [':']), m.clock.second,
      by simp [text, DateLetters.clockText]⟩
  | joined =>
    exact ⟨dateText m.date ++ 'T' :: (lastFigures 2 m.clock.hour ++
      ':' :: lastFigures 2 m.clock.minute ++ [':']), m.clock.second,
      by simp [text, DateLetters.clockText]⟩
  | dateOnly =>
    exact ⟨DateLetters.yearText m.date.year ++ '-' :: lastFigures 2 m.date.month ++ ['-'],
      m.date.day, by simp [text, dateText]⟩

/-- Spaces around a moment in a layout are cut off, and nothing else. -/
theorem trim_text (l : Layout) (m : Moment) {before after : List Char}
    (hbefore : ∀ c ∈ before, Text.isSpace c = true)
    (hafter : ∀ c ∈ after, Text.isSpace c = true) :
    Text.trim (before ++ l.text m ++ after) = l.text m := by
  obtain ⟨c, cs, hcons, hc⟩ := l.exists_text_eq_cons m
  obtain ⟨front, n, happend⟩ := l.exists_text_eq_append m
  have hne : l.text m ≠ [] := hcons ▸ List.cons_ne_nil c cs
  refine Text.trim_of_ends hbefore hafter hne ?_ ?_
  · simp only [hcons, List.head_cons]
    exact hc
  · have hlast := List.getLast_append_of_ne_nil (happend ▸ hne)
      (@lastFigures_ne_nil 2 (by decide) n)
    simp only [happend, hlast]
    exact Text.isSpace_of_isDigit (isDigit_of_mem_lastFigures (List.getLast_mem _))

/-- A moment in the pattern of a layout has the text of the layout. -/
theorem onMoment?_pattern (l : Layout) (m : Moment) :
    Pattern.onMoment? l.pattern.toList m = some (l.text m) := by
  have hdate := render?_dateText m.date (some m.clock)
  have hclock := render?_clockText m.date m.clock
  have hjoin (c : Char) : render? m.date (some m.clock)
      ([plain .year, .literal '-', plain .month, .literal '-', plain .day] ++
        .literal c :: [plain .hour, .literal ':', plain .minute, .literal ':', plain .second]) =
      some (dateText m.date ++ c :: DateLetters.clockText m.clock) := by
    have hbetween : (Item.literal c).text? m.date (some m.clock) = some [c] := rfl
    rw [render?_append, hdate, render?_cons hbetween hclock]
    rfl
  cases l with
  | spaced => exact hjoin ' '
  | joined => exact hjoin 'T'
  | dateOnly => exact hdate

/-- A date in the pattern of dates alone has the text of that layout. -/
theorem onDate?_pattern (d : Date) :
    Pattern.onDate? dateOnly.pattern.toList d = some (dateText d) :=
  render?_dateText d none

theorem kept_eq_self_iff {l : Layout} (hl : l ≠ dateOnly) (m : Moment) :
    l.kept m = m ↔ m.clock.IsWhole := by
  obtain ⟨d, c⟩ := m
  rw [← c.shown_eq_self_iff]
  cases l with
  | spaced => simp [kept]
  | joined => simp [kept]
  | dateOnly => exact absurd rfl hl

theorem read?_text (l : Layout) (m : Moment) : l.read? (l.text m) = some (l.kept m) := by
  cases l with
  | spaced =>
    have hbetween : skipSpaces (' ' :: DateLetters.clockText m.clock) =
        some ((), DateLetters.clockText m.clock) := by
      unfold DateLetters.clockText
      rw [skipSpaces_space (by decide), List.append_assoc, skipSpaces_lastFigures (by decide)]
    exact all?_eq_some.mpr (moment_of_between hbetween)
  | joined => exact all?_eq_some.mpr (moment_of_between (char_cons 'T' _))
  | dateOnly =>
    have hdate := date_dateText m.date []
    rw [List.append_nil] at hdate
    exact congrArg (Option.map Moment.ofDate) (all?_eq_some.mpr hdate)

/-- The character that comes next behind the date, spaces left aside, in a text that the layout
reads. -/
def Follows (next : Option Char) : Layout → Prop
  | spaced => ∃ c, next = some c ∧ c.isDigit = true
  | joined => next = some 'T'
  | dateOnly => next = none

theorem exists_date_of_read? {l : Layout} {cs : List Char} {m : Moment}
    (h : l.read? cs = some m) :
    ∃ d rest, date cs = some (d, rest) ∧ l.Follows (Text.trimStart rest).head? := by
  cases l with
  | spaced =>
    obtain ⟨d, rest, hdate, h⟩ := bind_eq_some.mp (all?_eq_some.mp h)
    obtain ⟨_, rest', hspaces, h⟩ := bind_eq_some.mp h
    obtain ⟨c, rest'', hclock, h⟩ := bind_eq_some.mp h
    obtain ⟨hour, rest''', hshort, -⟩ := bind_eq_some.mp hclock
    cases hspaces
    obtain ⟨c, later, hlater, hc⟩ := exists_digit_of_short hshort
    refine ⟨d, rest, hdate, c, ?_, hc⟩
    rw [Text.trimStart, Text.trimStart, List.dropWhile_idempotent] at hlater
    exact congrArg List.head? hlater
  | joined =>
    obtain ⟨d, rest, hdate, h⟩ := bind_eq_some.mp (all?_eq_some.mp h)
    obtain ⟨_, rest', hchar, -⟩ := bind_eq_some.mp h
    refine ⟨d, rest, hdate, ?_⟩
    rw [eq_cons_of_char hchar, Text.trimStart_of_not_isSpace (by decide)]
    rfl
  | dateOnly =>
    obtain ⟨d, hdate, -⟩ := Option.map_eq_some_iff.mp h
    exact ⟨d, [], all?_eq_some.mp hdate, rfl⟩

theorem Follows.unique {l l' : Layout} {next : Option Char} (h : l.Follows next)
    (h' : l'.Follows next) : l' = l := by
  have hletter : ¬ 'T'.isDigit = true := by decide
  cases l <;> cases l' <;> simp_all [Follows]

/-- No text is read in two layouts. -/
theorem unique_of_read? {l l' : Layout} {cs : List Char} {m m' : Moment}
    (h : l.read? cs = some m) (h' : l'.read? cs = some m') : l' = l := by
  obtain ⟨d, rest, hdate, hfollows⟩ := exists_date_of_read? h
  obtain ⟨d', rest', hdate', hfollows'⟩ := exists_date_of_read? h'
  rw [hdate] at hdate'
  cases hdate'
  exact hfollows.unique hfollows'

end Layout

/-- The first layout that reads a text is the only one. -/
theorem read?_of_layout {l : Layout} {cs : List Char} {m : Moment} (h : l.read? cs = some m) :
    read? cs = some m := by
  -- a layout that is tried earlier reads nothing, or the text would be read in two
  have hnone {l' : Layout} (hne : l' ≠ l) : l'.read? cs = none := by
    refine Option.eq_none_iff_forall_ne_some.mpr ?_
    intro m' h'
    exact hne (Layout.unique_of_read? h h')
  unfold read?
  cases l with
  | spaced =>
    rw [show spaced? cs = _ from h]
    rfl
  | joined =>
    rw [show spaced? cs = none from @hnone .spaced nofun, show joined? cs = _ from h]
    rfl
  | dateOnly =>
    rw [show spaced? cs = none from @hnone .spaced nofun,
      show joined? cs = none from @hnone .joined nofun, show dateOnly? cs = _ from h]
    rfl

end Iso

end Calendar

namespace Input

open Calendar Iso

variable (i : Input)

/-- What a layout reads is read whatever the rule and the setting are. -/
theorem moment_of_layout {l : Layout} {raw : String} {m : Moment}
    (h : l.read? (Text.trim raw.toList) = some m) : (i.moment raw).run = .ok (.ok m) := by
  unfold moment
  dsimp only
  rw [read?_of_layout h]
  rfl

/-- A moment in a layout is read back but for what the layout does not show, with any spaces
around it. -/
theorem moment_text (l : Layout) (m : Moment) {before after : List Char}
    (hbefore : ∀ c ∈ before, Text.isSpace c = true)
    (hafter : ∀ c ∈ after, Text.isSpace c = true) :
    (i.moment (String.ofList (before ++ l.text m ++ after))).run = .ok (.ok (l.kept m)) := by
  refine i.moment_of_layout (l := l) ?_
  rw [String.toList_ofList, l.trim_text m hbefore hafter, l.read?_text]

/-- A moment that is written in figures is read back, with any spaces around it and whatever dates
are read against, if it has no fraction, and only then.  So is a date alone.  And every text in one
of the layouts has one meaning, which it keeps whatever dates are read against. -/
theorem moment_reads_written {before after : List Char}
    (hbefore : ∀ c ∈ before, Text.isSpace c = true)
    (hafter : ∀ c ∈ after, Text.isSpace c = true) :
    (∀ l ≠ Layout.dateOnly, ∀ m : Moment, ∃ text,
        Pattern.onMoment? l.pattern.toList m = some text ∧
        ((i.moment (String.ofList (before ++ text ++ after))).run = .ok (.ok m) ↔
          m.clock.IsWhole)) ∧
      (∀ d : Date, ∃ text, Pattern.onDate? Layout.dateOnly.pattern.toList d = some text ∧
        (i.moment (String.ofList (before ++ text ++ after))).run = .ok (.ok (.ofDate d))) ∧
      ∀ (l : Layout) (raw : String) (m : Moment), l.read? (Text.trim raw.toList) = some m →
        ∀ j : Input, (j.moment raw).run = .ok (.ok m) := by
  refine ⟨?_, ?_, ?_⟩
  · intro l hl m
    refine ⟨l.text m, l.onMoment?_pattern m, ?_⟩
    rw [i.moment_text l m hbefore hafter, Except.ok.injEq, Except.ok.injEq]
    exact Layout.kept_eq_self_iff hl m
  · intro d
    exact ⟨dateText d, Layout.onDate?_pattern d, i.moment_text .dateOnly (.ofDate d) hbefore hafter⟩
  · intro l raw m h j
    exact j.moment_of_layout h

/-- An extra second long ago and the last day of the calendar, read for a rule. -/
theorem moment_reads_written_ends :
    (∀ c ∈ [' ', '\t'], Text.isSpace c = true) ∧ (∀ c ∈ ['\n'], Text.isSpace c = true) ∧
      let i : Input := ⟨"after", "end", [], none, .fixed⟩
      let m : Moment := ⟨⟨-44, 3, 15, by decide⟩, ⟨86399, nanosPerSecond, by decide, by decide⟩⟩
      let d : Date := ⟨262142, 12, 31, by decide⟩
      (i.moment " \t-0044-03-15T23:59:60\n").run = .ok (.ok m) ∧
        (i.moment " \t+262142-12-31\n").run = .ok (.ok (.ofDate d)) := by
  have hbefore : ∀ c ∈ [' ', '\t'], Text.isSpace c = true := List.all_eq_true.mp (by decide)
  have hafter : ∀ c ∈ ['\n'], Text.isSpace c = true := List.all_eq_true.mp (by decide)
  refine ⟨hbefore, hafter, ?_⟩
  intro i m d
  obtain ⟨hmoments, hdates, -⟩ := i.moment_reads_written hbefore hafter
  obtain ⟨text, htext, hread⟩ := hmoments .joined (by decide) m
  obtain ⟨text', htext', hread'⟩ := hdates d
  obtain rfl : "-0044-03-15T23:59:60".toList = text := Option.some.inj (.trans (by decide) htext)
  obtain rfl : "+262142-12-31".toList = text' := Option.some.inj (.trans (by decide) htext')
  exact ⟨hread.mpr (.inr ⟨rfl, by decide⟩), hread'⟩

end Input

end FieldGuide
