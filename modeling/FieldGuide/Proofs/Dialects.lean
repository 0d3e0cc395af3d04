import Mathlib.Data.List.Infix
import FieldGuide.Proofs.WrittenDates
set_option autoImplicit false

/-!
# Day and month in figures

Two numbers with a slash between them are a day and a month for the British, and a month and a day
for the Americans.  Once the two numbers have changed places, the Americans understand what the
British do, whatever stands behind them and whatever it is read against.  Faults are no exception:
each number is held to the same bound wherever it stands.
-/

namespace FieldGuide

open Number

variable {a b rest : List Char}

/-! ## Numbers in figures -/

namespace Number

/-- A number in figures. -/
structure IsFigures (cs : List Char) : Prop where
  ne_nil : cs ≠ []
  isDigit : ∀ c ∈ cs, c.isDigit = true

theorem EndsFigures.trimEnd (h : EndsFigures rest) : EndsFigures (Text.trimEnd rest) := by
  intro c hc
  obtain ⟨spaces, hrest⟩ := Text.trimEnd_prefix_self rest
  refine h c ?_
  rw [← hrest, List.head?_append, hc]
  rfl

namespace IsFigures

theorem exists_cons (ha : IsFigures a) :
    ∃ c cs, a = c :: cs ∧ c.isDigit = true ∧ ∀ d ∈ cs, d.isDigit = true := by
  obtain ⟨c, cs, rfl⟩ := List.exists_cons_of_ne_nil ha.ne_nil
  obtain ⟨hc, hcs⟩ := List.forall_mem_cons.mp ha.isDigit
  exact ⟨c, cs, rfl, hc, hcs⟩

/-- Spaces are cut off only behind a slash and the two numbers around it. -/
theorem trim_slashed (ha : IsFigures a) (hb : IsFigures b) (rest : List Char) :
    Text.trim (a ++ '/' :: (b ++ rest)) = a ++ '/' :: (b ++ Text.trimEnd rest) := by
  obtain ⟨c, cs, rfl, hc, -⟩ := ha.exists_cons
  have hne : (c :: cs) ++ '/' :: b ≠ [] := List.cons_ne_nil _ _
  have hlast : ((c :: cs) ++ '/' :: b).getLast hne = b.getLast hb.ne_nil := by
    rw [List.getLast_append_of_ne_nil hne (List.cons_ne_nil _ _), List.getLast_cons hb.ne_nil]
  have htrim := Text.trim_append hne (Text.isSpace_of_isDigit hc)
    (hlast ▸ Text.isSpace_of_isDigit (hb.isDigit _ (List.getLast_mem hb.ne_nil))) rest
  simpa only [List.append_assoc, List.cons_append] using htrim

end IsFigures

end Number

/-! ## No date in figures has a slash -/

namespace Calendar.Iso

/-- What a number is read from are figures. -/
theorem exists_append_of_digits {width n : Nat} {cs rest : List Char}
    (h : digits width cs = some (n, rest)) :
    ∃ figures, (∀ c ∈ figures, c.isDigit = true) ∧ cs = figures ++ rest := by
  refine ⟨(cs.take width).takeWhile Char.isDigit, fun _ => List.mem_takeWhile_imp, ?_⟩
  have hprefix := (List.takeWhile_prefix Char.isDigit).trans (List.take_prefix width cs)
  unfold digits at h
  split at h
  · cases h
  · cases h
    exact List.prefix_append_drop hprefix

/-- A date that begins with a figure has figures up to its first hyphen. -/
theorem exists_append_of_date {c : Char} (hc : c.isDigit = true) {cs rest : List Char} {d : Date}
    (h : date (c :: cs) = some (d, rest)) :
    ∃ figures behind, (∀ c ∈ figures, c.isDigit = true) ∧ c :: cs = figures ++ '-' :: behind := by
  obtain ⟨y, rest', hyear, h⟩ := bind_eq_some.mp h
  obtain ⟨_, behind, hchar, -⟩ := bind_eq_some.mp h
  rw [year_eq_of_isDigit hc] at hyear
  obtain ⟨n, rest'', hdigits, hpure⟩ := bind_eq_some.mp hyear
  cases hpure
  obtain ⟨figures, hfigures, heq⟩ := exists_append_of_digits hdigits
  exact ⟨figures, behind, hfigures, eq_cons_of_char hchar ▸ heq⟩

theorem exists_layout_of_read? {cs : List Char} {m : Moment} (h : read? cs = some m) :
    ∃ l : Layout, l.read? cs = some m := by
  simp only [read?, Option.orElse_eq_some] at h
  rcases h with h | ⟨-, h | ⟨-, h⟩⟩
  · exact ⟨.spaced, h⟩
  · exact ⟨.joined, h⟩
  · exact ⟨.dateOnly, h⟩

theorem read?_slashed (ha : IsFigures a) (rest : List Char) : read? (a ++ '/' :: rest) = none := by
  rw [Option.eq_none_iff_forall_ne_some]
  intro m h
  obtain ⟨l, hread⟩ := exists_layout_of_read? h
  obtain ⟨d, behind, hdate, -⟩ := Layout.exists_date_of_read? hread
  obtain ⟨figures, later, hfigures, heq⟩ : ∃ figures later,
      (∀ c ∈ figures, c.isDigit = true) ∧ a ++ '/' :: rest = figures ++ '-' :: later := by
    obtain ⟨c, cs, rfl, hc, -⟩ := ha.exists_cons
    exact exists_append_of_date hc hdate
  -- behind the figures there stands a slash, and a hyphen if this is a date
  have hdrop := congrArg (List.dropWhile Char.isDigit) heq
  rw [List.dropWhile_append_of_pos ha.isDigit, List.dropWhile_append_of_pos hfigures] at hdrop
  cases hdrop

end Calendar.Iso

/-! ## Two numbers with a slash between them, as a phrase -/

namespace DatePhrase

open Calendar

variable {α β : Type}

theorem bind_of_ok {read : Reader α} {f : α → Reader β} {cs rest : List Char} {x : α}
    (h : read cs = .ok (x, rest)) : (read >>= f) cs = f x rest := by
  change (read cs).bind _ = _
  rw [h]
  rfl

theorem bind_eq_ok {read : Reader α} {f : α → Reader β} {cs : List Char} {r : β × List Char} :
    (read >>= f) cs = .ok r ↔ ∃ x rest, read cs = .ok (x, rest) ∧ f x rest = .ok r := by
  change (read cs).bind _ = _ ↔ _
  rcases read cs with fault | ⟨x, rest⟩
  · exact iff_of_false nofun (by simp)
  · simp [Except.bind]

/-- What goes on from two readings that agree agrees. -/
theorem bind_alike {read read' : Reader α} {cs cs' : List Char} (h : read cs = read' cs')
    (f : α → Reader β) : (read >>= f) cs = (read' >>= f) cs' :=
  congrArg (·.bind fun r => f r.1 r.2) h

/-- A number goes on as it is, if it goes on. -/
theorem narrow_bind_alike {n : Nat} {f g : Nat → Reader β} {cs cs' : List Char}
    (h : f n cs = g n cs') : (narrow n >>= f) cs = (narrow n >>= g) cs' := by
  unfold narrow
  split
  · exact h
  · rfl

/-- Of two numbers either may be looked at first. -/
theorem narrow_comm (m n : Nat) (f : Nat → Nat → Reader β) :
    (narrow m >>= fun first => narrow n >>= fun second => f first second) =
      narrow n >>= fun second => narrow m >>= fun first => f first second := by
  unfold narrow
  split
  · rfl
  · split
    · rfl
    · rfl

theorem nextToken_figures (ha : IsFigures a) (hrest : EndsFigures rest) :
    nextToken (a ++ rest) = (numberToken a, rest) := by
  obtain ⟨c, cs, rfl, hc, hcs⟩ := ha.exists_cons
  have hstop : c ≠ stop := by
    rintro rfl
    exact absurd hc (by decide)
  rw [List.cons_append, nextToken, List.head?_cons, if_neg (by simp [hstop]),
    Text.trimStart_of_not_isSpace (Text.isSpace_of_isDigit hc), tokenAt, if_pos hc,
    takeWhile_isDigit_append hcs hrest, dropWhile_isDigit_append hcs hrest]

theorem nextToken_slash (cs : List Char) : nextToken ('/' :: cs) = (.symbol '/', cs) := by
  rw [nextToken, List.head?_cons, if_neg (by decide),
    Text.trimStart_of_not_isSpace (by decide), tokenAt, if_neg (by decide),
    if_neg (by decide +kernel), if_neg (by decide)]

/-- A number that has too many figures for a token has too many for 32 bits. -/
theorem narrowNumber_figures (ha : IsFigures a) (hrest : EndsFigures rest) :
    narrowNumber (a ++ rest) = narrow (ofFigures a) rest := by
  have htoken : token (a ++ rest) = .ok (numberToken a, rest) :=
    congrArg Except.ok (nextToken_figures ha hrest)
  rw [narrowNumber, bind_of_ok htoken, numberToken]
  by_cases hlong : ofFigures a < 2 ^ 63
  · simp only [hlong, if_true]
  · have hwide : ¬ofFigures a < 2 ^ 32 := by omega
    simp only [hlong, hwide, if_false, narrow]

/-- A date part that begins with a figure begins with a number of 32 bits. -/
theorem datePart_figures (dialect : Dialect) (ha : IsFigures a) (hrest : EndsFigures rest) :
    datePart dialect (a ++ rest) =
      (narrowNumber >>= numberedDate dialect false .here) (a ++ rest) := by
  have htoken : token (a ++ rest) = .ok (numberToken a, rest) :=
    congrArg Except.ok (nextToken_figures ha hrest)
  rw [datePart, bind_of_ok htoken, narrowNumber, bind_assoc, bind_of_ok htoken, numberToken]
  split
  · rfl
  · rfl

/-- The day and the month that two numbers are. -/
def Dialect.order : Dialect → (first second : Nat) → Nat × Nat
  | uk, first, second => (first, second)
  | us, first, second => (second, first)

/-- A date part of which the day and the month have been read; a year may follow. -/
def dayAndMonth (direction : Direction) : Nat × Nat → Reader DatePart
  | (day, month) => do
    if (← peek) = some '/' then
      dropChar
      let year ← narrowNumber
      return .absolute (yearOf (pivotYear year)) month day
    else return .dayOfMonth direction day month

theorem dayAndMonth_ne_weekday {direction direction' : Direction} {days : Nat × Nat} {day : Nat}
    {cs rest : List Char} : dayAndMonth direction days cs ≠ .ok (.weekday direction' day, rest) := by
  intro h
  obtain ⟨next, _, -, h⟩ := bind_eq_ok.mp h
  split at h
  · obtain ⟨_, _, -, h⟩ := bind_eq_ok.mp h
    obtain ⟨_, _, -, h⟩ := bind_eq_ok.mp h
    cases h
  · cases h

theorem slashedDate_eq (dialect : Dialect) (direction : Direction) (first : Nat) :
    slashedDate dialect direction first =
      narrowNumber >>= fun second => dayAndMonth direction (dialect.order first second) := by
  cases dialect <;> rfl

theorem numberedDate_slash (dialect : Dialect) (direction : Direction) (n : Nat)
    (cs : List Char) :
    numberedDate dialect false direction n ('/' :: cs) =
      (slashedDate dialect direction n >>= fun date => pure (some date, none)) cs := by
  have htoken : token ('/' :: cs) = .ok (.symbol '/', cs) :=
    congrArg Except.ok (nextToken_slash cs)
  rw [numberedDate, bind_of_ok htoken]
  rfl

/-- The phrase of two numbers with a slash between them, once the two have been read. -/
def slashedPhrase (dialect : Dialect) (m n : Nat) :
    Reader (Option DatePart × Option TimePart) := do
  let first ← narrow m
  let second ← narrow n
  let date ← dayAndMonth .here (dialect.order first second)
  return (some date, ← separateTime)

/-- The dialects put the numbers in their order, and that is all they do. -/
theorem slashedPhrase_swap (m n : Nat) : slashedPhrase .uk m n = slashedPhrase .us n m :=
  narrow_comm m n _

theorem phrase_slashed (dialect : Dialect) (ha : IsFigures a) (hb : IsFigures b)
    (hrest : EndsFigures rest) :
    phrase dialect (a ++ '/' :: (b ++ rest)) =
      slashedPhrase dialect (ofFigures a) (ofFigures b) rest := by
  have hslash : EndsFigures ('/' :: (b ++ rest)) := endsFigures_cons (by decide) _
  -- the first number, then the slash and the second one; what follows is read alike
  rw [phrase, bind_alike (datePart_figures dialect ha hslash), bind_assoc,
    bind_alike (narrowNumber_figures ha hslash)]
  refine narrow_bind_alike ?_
  rw [bind_alike (numberedDate_slash dialect .here (ofFigures a) (b ++ rest)), slashedDate_eq,
    bind_assoc, bind_assoc, bind_alike (narrowNumber_figures hb hrest)]
  exact narrow_bind_alike rfl

theorem phrase_swap (ha : IsFigures a) (hb : IsFigures b) (hrest : EndsFigures rest) :
    phrase .uk (a ++ '/' :: (b ++ rest)) = phrase .us (b ++ '/' :: (a ++ rest)) := by
  rw [phrase_slashed .uk ha hb hrest, phrase_slashed .us hb ha hrest, slashedPhrase_swap]

/-! ## The moment of two numbers with a slash between them -/

/-- The moment of a date that is no day of the week is the same in both dialects. -/
theorem resolve_dialect (dialect dialect' : Dialect) (base : Moment) {date : DatePart}
    (h : ∀ direction day, date ≠ .weekday direction day) (time : Option TimePart) :
    resolve dialect base (some date) time = resolve dialect' base (some date) time := by
  cases date with
  | absolute year month day => rfl
  | relative unit count => rfl
  | weekday direction day => exact absurd rfl (h direction day)
  | dayOfMonth direction day month => rfl

theorem resolve_of_slashedPhrase {dialect : Dialect} {m n : Nat} {cs rest : List Char}
    {date : Option DatePart} {time : Option TimePart}
    (h : slashedPhrase dialect m n cs = .ok ((date, time), rest)) (base : Moment) :
    resolve .uk base date time = resolve .us base date time := by
  obtain ⟨first, _, -, h⟩ := bind_eq_ok.mp h
  obtain ⟨second, _, -, h⟩ := bind_eq_ok.mp h
  obtain ⟨date, _, hdate, h⟩ := bind_eq_ok.mp h
  obtain ⟨time, _, -, h⟩ := bind_eq_ok.mp h
  cases h
  refine resolve_dialect .uk .us base ?_ time
  rintro direction day rfl
  exact dayAndMonth_ne_weekday hdate

theorem moment_swap (base : Moment) (ha : IsFigures a) (hb : IsFigures b)
    (hrest : EndsFigures rest) :
    moment .uk base (a ++ '/' :: (b ++ rest)) = moment .us base (b ++ '/' :: (a ++ rest)) := by
  rw [moment, moment, ← phrase_swap ha hb hrest]
  split
  · rfl
  · rename_i date time behind hphrase
    exact resolve_of_slashedPhrase (phrase_slashed .uk ha hb hrest ▸ hphrase) base

end DatePhrase

namespace Input

open Calendar

/-- What a date comes to that is no date in figures. -/
theorem run_moment_of_phrase (i : Input) {raw : String}
    (h : Iso.read? (Text.trim raw.toList) = none) :
    (i.moment raw).run =
      match DatePhrase.moment i.setting.dialect i.setting.reference (Text.trim raw.toList) with
      | .ok m => .ok (.ok m)
      | .error .unreadable => .ok (.error (.invalidDate i.rule raw))
      | .error .broken => .error .phrase := by
  unfold moment
  dsimp only
  rw [h]
  rcases DatePhrase.moment i.setting.dialect i.setting.reference (Text.trim raw.toList) with
    (_ | _) | m
  · rfl
  · rfl
  · rfl

/-- Two numbers with a slash between them and any text behind them, as long as it does not begin
with a figure, are the same moment for the British as they are for the Americans the other way
round; or both find the date invalid, or both break off. -/
theorem moment_mirrored (i : Input) (reference : Moment) (ha : IsFigures a) (hb : IsFigures b)
    (hrest : EndsFigures rest) :
    let uk := String.ofList (a ++ '/' :: (b ++ rest))
    let us := String.ofList (b ++ '/' :: (a ++ rest))
    let british := (Input.moment { i with setting := ⟨reference, .uk⟩ } uk).run
    let american := (Input.moment { i with setting := ⟨reference, .us⟩ } us).run
    (∃ m, british = .ok (.ok m) ∧ american = .ok (.ok m)) ∨
      (british = .ok (.error (.invalidDate i.rule uk)) ∧
        american = .ok (.error (.invalidDate i.rule us))) ∨
      (british = .error .phrase ∧ american = .error .phrase) := by
  intro uk us british american
  have htrim : Text.trim uk.toList = a ++ '/' :: (b ++ Text.trimEnd rest) := by
    rw [String.toList_ofList, ha.trim_slashed hb]
  have htrim' : Text.trim us.toList = b ++ '/' :: (a ++ Text.trimEnd rest) := by
    rw [String.toList_ofList, hb.trim_slashed ha]
  have hbritish := run_moment_of_phrase { i with setting := ⟨reference, .uk⟩ }
    (htrim ▸ Iso.read?_slashed ha _)
  have hamerican := run_moment_of_phrase { i with setting := ⟨reference, .us⟩ }
    (htrim' ▸ Iso.read?_slashed hb _)
  -- both come down to what the one phrase names, and only the fault holds the text itself
  have hswap := DatePhrase.moment_swap reference ha hb hrest.trimEnd
  simp only [htrim, hswap] at hbritish
  simp only [htrim'] at hamerican
  rcases hphrase : DatePhrase.moment .us reference (b ++ '/' :: (a ++ Text.trimEnd rest)) with
    (_ | _) | m
  · simp only [hphrase] at hbritish hamerican
    exact .inr (.inl ⟨hbritish, hamerican⟩)
  · simp only [hphrase] at hbritish hamerican
    exact .inr (.inr ⟨hbritish, hamerican⟩)
  · simp only [hphrase] at hbritish hamerican
    exact .inl ⟨m, hbritish, hamerican⟩

/-- The last afternoon of a year, with its year in two figures. -/
theorem moment_mirrored_afternoon :
    IsFigures ['3', '1'] ∧ IsFigures ['1', '2'] ∧ EndsFigures "/41 2.30pm\n".toList ∧
      let i : Input := ⟨"after", "end", [], none, .fixed⟩
      let m : Moment := ⟨⟨1941, 12, 31, by decide⟩, ⟨52200, 0, by decide, by decide⟩⟩
      (Input.moment { i with setting := ⟨Setting.fixed.reference, .uk⟩ }
        "31/12/41 2.30pm\n").run = .ok (.ok m) ∧
      (Input.moment { i with setting := ⟨Setting.fixed.reference, .us⟩ }
        "12/31/41 2.30pm\n").run = .ok (.ok m) := by
  have ha : IsFigures ['3', '1'] := ⟨by decide, List.all_eq_true.mp (by decide)⟩
  have hb : IsFigures ['1', '2'] := ⟨by decide, List.all_eq_true.mp (by decide)⟩
  have hrest : EndsFigures "/41 2.30pm\n".toList := endsFigures_cons (by decide) _
  refine ⟨ha, hb, hrest, ?_⟩
  intro i m
  have hbritish : (Input.moment { i with setting := ⟨Setting.fixed.reference, .uk⟩ }
      "31/12/41 2.30pm\n").run = .ok (.ok m) := by
    decide +kernel
  refine ⟨hbritish, ?_⟩
  rcases i.moment_mirrored Setting.fixed.reference ha hb hrest with
    ⟨m', huk, hus⟩ | ⟨huk, -⟩ | ⟨huk, -⟩
  · cases hbritish.symm.trans huk
    exact hus
  · cases hbritish.symm.trans huk
  · cases hbritish.symm.trans huk

end Input

end FieldGuide
