import FieldGuide.Proofs.Counterparts
import FieldGuide.Proofs.DaySteps
import FieldGuide.Proofs.WrittenDates
set_option autoImplicit false

/-!
# Bounds of dates and the days beside them

A rule that bounds a date on one side documents the bound in its description and the day beside
it, on the side where dates are allowed, as its example.  The bound is read once for each of the
two, and both fail alike if it cannot be read.  Only at the ends of the calendar is there a bound
with no day beside it.
-/

namespace FieldGuide

open Number

/-! ## The line of a bound -/

namespace Calendar

namespace DateLetters

/-- The line in which a moment is documented as a bound. -/
def boundLine (m : Moment) : String :=
  String.ofList <|
    weekdayName m.date.weekday ++ [',', ' '] ++ lastFigures 2 m.date.day ++
      '-' :: shortName (monthName m.date.month) ++ '-' :: lastFigures 2 (m.date.year % 100).toNat ++
      ' ' :: clockText m.clock ++ " UTC".toList

/-- The layout of bounds says the same. -/
theorem boundText?_eq (m : Moment) : boundText? m = some (boundLine m) := by
  have hread : Pattern.read? bound.toList =
      some (.weekday false :: .literal ',' :: .literal ' ' :: Pattern.plain .day :: .literal '-' ::
        .month true :: .literal '-' :: Pattern.plain .yearOfCentury :: .literal ' ' ::
        ([Pattern.plain .hour, .literal ':', Pattern.plain .minute, .literal ':',
          Pattern.plain .second] ++ " UTC".toList.map .literal)) := rfl
  have hclock : Pattern.render? m.date (some m.clock)
      ([Pattern.plain .hour, .literal ':', Pattern.plain .minute, .literal ':',
        Pattern.plain .second] ++ " UTC".toList.map .literal) =
      some (clockText m.clock ++ " UTC".toList) := by
    rw [render?_append, Iso.render?_clockText, render?_literals]
    rfl
  refine congrArg (Option.map String.ofList) (?_ : Pattern.onMoment? bound.toList m = some _)
  rw [Pattern.onMoment?, hread, Option.bind_some]
  refine (render?_cons rfl (render?_cons rfl (render?_cons rfl (render?_cons (text?_day _ _)
    (render?_cons rfl (render?_cons rfl (render?_cons rfl (render?_cons
      (text?_yearOfCentury _ _) (render?_cons rfl hclock))))))))).trans ?_
  simp only [Item.nameText, if_true, Bool.false_eq_true, if_false, List.append_assoc,
    List.cons_append, List.nil_append]

example : boundText? ⟨⟨2005, 8, 15, by decide⟩, ⟨57121, 0, by decide, by decide⟩⟩ =
    some "Monday, 15-Aug-05 15:52:01 UTC" := by decide

/-- The line shows no more of a time of day than the second. -/
theorem boundLine_shown (d : Date) (c : Clock) : boundLine ⟨d, c.shown⟩ = boundLine ⟨d, c⟩ := by
  obtain ⟨hhour, hminute, hsecond⟩ := c.shown_parts
  simp only [boundLine, clockText, hhour, hminute, hsecond]

end DateLetters

end Calendar

open Calendar DateLetters

/-! ## Reading a bound -/

theorem boundText_eq (m : Moment) : boundText m = pure (boundLine m) := by
  rw [boundText, boundText?_eq]

namespace Input

variable {i : Input} {raw : String} {days : Int}

theorem moment_eq_dropped {error : RuleError} (h : (i.moment raw).run = .ok (.error error)) :
    error = .invalidDate i.rule raw := by
  unfold moment at h
  dsimp only at h
  split at h
  · cases h
  · split at h <;> cases h
    rfl

/-- The bound cannot be read, for a reason. -/
inductive BoundFails (i : Input) : RuleError → Prop where
  | missing (h : i.parameters[0]? = none) : BoundFails i (.missingParameter i.rule 0)
  | rejected {raw : String} (hraw : i.parameters[0]? = some raw)
      (h : (i.moment raw).run = .ok (.error (.invalidDate i.rule raw))) :
      BoundFails i (.invalidDate i.rule raw)

/-- The first parameter is there and is read as a moment. -/
structure ReadsBound (i : Input) (raw : String) (b : Moment) : Prop where
  parameter : i.parameters[0]? = some raw
  moment : (i.moment raw).run = .ok (.ok b)

/-- The description and the example read the same bound and fail alike. -/
theorem BoundFails.run_eq {error : RuleError} (h : i.BoundFails error) (days : Int) :
    (Describing.bound.arguments i).run = .ok (.error error) ∧
      (dayFromBound i days).run = .ok (.error error) := by
  rw [Describing.arguments, dayFromBound]
  cases h with
  | missing hnone =>
    rw [parameter, hnone]
    exact ⟨rfl, rfl⟩
  | rejected hraw hmoment =>
    rw [parameter_eq_ok.mpr hraw, Attempt.lift_ok_bind, Attempt.lift_ok_bind]
    exact ⟨Attempt.bind_eq_dropped.mpr (.inl hmoment), Attempt.bind_eq_dropped.mpr (.inl hmoment)⟩

namespace ReadsBound

variable {b b' : Moment} (h : i.ReadsBound raw b)

include h

theorem arguments_eq : (Describing.bound.arguments i).run = .ok (.ok [boundLine b]) := by
  rw [Describing.arguments, parameter_eq_ok.mpr h.parameter, Attempt.lift_ok_bind]
  refine Attempt.bind_eq_done.mpr ⟨b, h.moment, ?_⟩
  rw [boundText_eq]
  rfl

theorem dayFromBound_eq_done (hb : b.addDays? days = some b') :
    (dayFromBound i days).run = .ok (.ok (.text (boundLine b'))) := by
  unfold dayFromBound
  rw [parameter_eq_ok.mpr h.parameter, Attempt.lift_ok_bind]
  refine Attempt.bind_eq_done.mpr ⟨b, h.moment, ?_⟩
  rw [hb]
  dsimp only
  rw [boundText_eq]
  rfl

theorem dayFromBound_eq_dropped (hb : b.addDays? days = none) :
    (dayFromBound i days).run = .ok (.error (.invalidDate i.rule raw)) := by
  unfold dayFromBound
  rw [parameter_eq_ok.mpr h.parameter, Attempt.lift_ok_bind]
  refine Attempt.bind_eq_dropped.mpr (.inr ⟨b, h.moment, ?_⟩)
  rw [hb]
  rfl

end ReadsBound

end Input

/-! ## The two rules -/

/-- The sides of a bound on which a date can be asked for. -/
inductive Side where
  | after
  | before
  deriving DecidableEq, Repr

namespace Side

/-- The kind of the rules that bound a date on the side. -/
def kind : Side → Kind
  | after => .after
  | before => .before

/-- The second moment is the one a day beside the first, on the side. -/
def Beside (b b' : Moment) : Side → Prop
  | after => b.DayLater b'
  | before => b.DayEarlier b'

/-- The moment lies at the end of the calendar, so that nothing is beside it on the side. -/
def AtEdge (b : Moment) : Side → Prop
  | after => b.date = Date.last
  | before => b.date = Date.first ∧ b.clock.back ≠ secondsPerDay

/-- The days from a bound to the day beside it. -/
def days : Side → Int
  | after => 1
  | before => -1

theorem addDays?_eq_some {side : Side} {b b' : Moment} :
    b.addDays? side.days = some b' ↔ side.Beside b b' := by
  cases side with
  | after => exact Moment.addDays?_one
  | before => exact Moment.addDays?_neg_one

theorem addDays?_eq_none {side : Side} {b : Moment} :
    b.addDays? side.days = none ↔ side.AtEdge b := by
  rw [Option.eq_none_iff_forall_ne_some]
  simp only [ne_eq, addDays?_eq_some]
  rw [← not_exists]
  cases side with
  | after => exact Moment.exists_dayLater_iff.not_left
  | before => exact Moment.exists_dayEarlier_iff.not.trans (by simp [AtEdge])

variable {templates : Templates} {setting : Setting} {field : String} {parameters : List String}

/-- What the rule reads. -/
def input (side : Side) (setting : Setting) (field : String) (parameters : List String) : Input :=
  side.kind.input setting field parameters (some .date)

/-- A rule that bounds a date draws nothing. -/
theorem apply_of_run (side : Side) {arguments : Except RuleError (List String)}
    {value : Except RuleError Example}
    (harguments : (Describing.bound.arguments (side.input setting field parameters)).run =
      .ok arguments)
    (hvalue : (dayFromBound (side.input setting field parameters) side.days).run = .ok value)
    (e : Entry) (s : Stream) :
    (side.kind.apply templates setting field parameters e).run s =
      .ok (side.kind.settle templates e (some arguments) (value.map some), s) := by
  have hfindings : side.kind.findings (side.input setting field parameters) =
      .ok ⟨some arguments, .ofReading (value.map pure)⟩ := by
    refine Kind.findings_eq_ok.mpr ?_
    cases side <;> exact ⟨readArguments_some_eq_ok.mpr ⟨_, harguments, rfl⟩,
      Plan.ofAttempt_of_run hvalue⟩
  have htype : side.kind.spec.typing.apply e.type = some .date := by
    cases side <;> rfl
  refine Kind.apply_eq_ok.mpr ⟨_, value.map some, (congrArg _ ?_).trans hfindings, ?_, rfl⟩
  · rw [htype]
    rfl
  · cases value <;> rfl

/-- The rule puts the line into its description for the bound. -/
def Documents (side : Side) (bound line : String) : Prop :=
  ∀ templates setting field rest e s, ∃ a,
    (side.kind.apply templates setting field (bound :: rest) e).run s = .ok (a, s) ∧
      a.entry.description = e.description ++ [Template.fill (templates side.kind.name) [line]]

theorem documents_of_moment (side : Side) {bound : String} {b : Moment}
    (h : ∀ i : Input, (i.moment bound).run = .ok (.ok b)) :
    side.Documents bound (boundLine b) := by
  intro templates setting field rest e s
  have hreads : (side.input setting field (bound :: rest)).ReadsBound bound b := ⟨rfl, h _⟩
  cases hb : b.addDays? side.days with
  | some b' =>
    exact ⟨_, side.apply_of_run hreads.arguments_eq (hreads.dayFromBound_eq_done hb) e s, rfl⟩
  | none =>
    exact ⟨_, side.apply_of_run hreads.arguments_eq (hreads.dayFromBound_eq_dropped hb) e s, rfl⟩

/-- A moment written in figures is documented as the moment itself. -/
theorem documents_written (side : Side) {l : Iso.Layout} (hl : l ≠ .dateOnly) (b : Moment) :
    ∃ text, Pattern.onMoment? l.pattern.toList b = some text ∧
      side.Documents (String.ofList text) (boundLine b) := by
  have hkept : boundLine (l.kept b) = boundLine b := by
    cases l with
    | spaced => exact boundLine_shown b.date b.clock
    | joined => exact boundLine_shown b.date b.clock
    | dateOnly => exact absurd rfl hl
  refine ⟨l.text b, l.onMoment?_pattern b, hkept ▸ side.documents_of_moment ?_⟩
  intro i
  have hread := @Input.moment_text i l b [] [] nofun nofun
  rwa [List.nil_append, List.append_nil] at hread

end Side

/-- The cases of a rule that bounds a date. -/
inductive BoundCase where
  | unread
  | beside
  | atEdge
  deriving DecidableEq, Repr

namespace BoundCase

/-- The number of errors that are dropped. -/
def drops : BoundCase → Nat
  | unread => 2
  | beside => 0
  | atEdge => 1

/-- What the rule finds in the case, and what becomes of the entry. -/
def Holds (side : Side) (i : Input) (template : String) (e : Entry) (a : Application) :
    BoundCase → Prop
  | unread => ∃ error, i.BoundFails error ∧
      a.entry.description = e.description ∧ a.entry.value = e.value ∧ a.dropped = [error, error]
  | beside => ∃ raw b b', i.ReadsBound raw b ∧ side.Beside b b' ∧
      a.entry.description = e.description ++ [Template.fill template [boundLine b]] ∧
        a.entry.value = .text (boundLine b') ∧ a.dropped = [] ∧
          ∀ l ≠ Iso.Layout.dateOnly, ∃ text, Pattern.onMoment? l.pattern.toList b' = some text ∧
            Side.after.Documents (String.ofList text) (boundLine b')
  | atEdge => ∃ raw b, i.ReadsBound raw b ∧ side.AtEdge b ∧
      a.entry.description = e.description ++ [Template.fill template [boundLine b]] ∧
        a.entry.value = e.value ∧ a.dropped = [.invalidDate i.rule raw]

variable {side : Side} {i : Input} {template : String} {e : Entry} {a : Application}

theorem Holds.length_dropped {c : BoundCase} (h : c.Holds side i template e a) :
    a.dropped.length = c.drops := by
  cases c with
  | unread =>
    obtain ⟨error, -, -, -, hdropped⟩ := h
    rw [hdropped]
    rfl
  | beside =>
    obtain ⟨raw, b, b', -, -, -, -, hdropped, -⟩ := h
    rw [hdropped]
    rfl
  | atEdge =>
    obtain ⟨raw, b, -, -, -, -, hdropped⟩ := h
    rw [hdropped]
    rfl

theorem eq_of_drops_eq {c c' : BoundCase} (h : c.drops = c'.drops) : c = c' := by
  cases c <;> cases c' <;> first | rfl | cases h

/-- The cases exclude each other: they drop different numbers of errors. -/
theorem Holds.existsUnique {c : BoundCase} (h : c.Holds side i template e a) :
    ∃! c : BoundCase, c.Holds side i template e a :=
  ⟨c, h, fun _ h' => eq_of_drops_eq (h'.length_dropped.symm.trans h.length_dropped)⟩

end BoundCase

/-- Where the bound does not break off, one case says what comes of the rule. -/
theorem exists_application (side : Side) {templates : Templates} {setting : Setting}
    {field : String} {parameters : List String} {e : Entry}
    {arguments : Except RuleError (List String)} {value : Except RuleError Example}
    (harguments : (Describing.bound.arguments (side.input setting field parameters)).run =
      .ok arguments)
    (hvalue : (dayFromBound (side.input setting field parameters) side.days).run = .ok value)
    {c : BoundCase}
    (h : c.Holds side (side.input setting field parameters) (templates side.kind.name) e
      (side.kind.settle templates e (some arguments) (value.map some))) :
    ∃ a, (∀ s, (side.kind.apply templates setting field parameters e).run s = .ok (a, s)) ∧
      a.effects.forcesType = true ∧ a.entry.type = some .date ∧
        ∃! c : BoundCase,
          c.Holds side (side.input setting field parameters) (templates side.kind.name) e a := by
  refine ⟨_, side.apply_of_run harguments hvalue e, ?_, ?_, h.existsUnique⟩
  · cases side <;> rfl
  · cases side <;> rfl

/-- A rule that bounds a date breaks off over the phrase of its bound, or it makes its field a date,
leaves the stream alone and comes to one of three cases.  The bound cannot be read: the description
and the example are dropped.  Or there is a day beside it: it is the example, and written in figures
it is documented by the same line.  Or there is none: the example alone is dropped. -/
theorem apply_bound_cases (side : Side) (templates : Templates) (setting : Setting)
    (field : String) (parameters : List String) (e : Entry) :
    (∃ raw, parameters[0]? = some raw ∧ setting.BreaksOn raw ∧
        ∀ s, (side.kind.apply templates setting field parameters e).run s = .error .phrase) ∨
      ∃ a, (∀ s, (side.kind.apply templates setting field parameters e).run s = .ok (a, s)) ∧
        a.effects.forcesType = true ∧ a.entry.type = some .date ∧
          ∃! c : BoundCase,
            c.Holds side (side.input setting field parameters) (templates side.kind.name) e a := by
  cases hraw : parameters[0]? with
  | none =>
    have hfails : (side.input setting field parameters).BoundFails _ := .missing hraw
    obtain ⟨harguments, hvalue⟩ := hfails.run_eq side.days
    exact .inr (exists_application side harguments hvalue (c := .unread)
      ⟨_, hfails, List.append_nil _, rfl, rfl⟩)
  | some raw =>
    rcases hread : ((side.input setting field parameters).moment raw).run with cause | (error | b)
    · obtain ⟨-, hbreaks⟩ := Input.moment_eq_error.mp hread
      refine .inl ⟨raw, rfl, hbreaks, ?_⟩
      intro s
      refine Kind.apply_eq_error.mpr (.inl (Kind.findings_eq_error.mpr ⟨?_, rfl, raw, ?_, hbreaks⟩))
      · cases side <;> simp [Side.kind]
      · exact Input.parameter_eq_ok.mpr hraw
    · obtain rfl := Input.moment_eq_dropped hread
      have hfails : (side.input setting field parameters).BoundFails _ := .rejected hraw hread
      obtain ⟨harguments, hvalue⟩ := hfails.run_eq side.days
      exact .inr (exists_application side harguments hvalue (c := .unread)
        ⟨_, hfails, List.append_nil _, rfl, rfl⟩)
    · have hreads : (side.input setting field parameters).ReadsBound raw b := ⟨hraw, hread⟩
      cases hb : b.addDays? side.days with
      | some b' =>
        exact .inr (exists_application side hreads.arguments_eq (hreads.dayFromBound_eq_done hb)
          (c := .beside) ⟨raw, b, b', hreads, Side.addDays?_eq_some.mp hb, rfl, rfl, rfl,
            fun l hl => Side.after.documents_written hl b'⟩)
      | none =>
        exact .inr (exists_application side hreads.arguments_eq (hreads.dayFromBound_eq_dropped hb)
          (c := .atEdge) ⟨raw, b, hreads, Side.addDays?_eq_none.mp hb, rfl, rfl, rfl⟩)

end FieldGuide
