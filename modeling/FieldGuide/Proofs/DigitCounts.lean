import FieldGuide.Proofs.Chunks
import FieldGuide.Proofs.NumericBounds
import FieldGuide.Proofs.Widths
set_option autoImplicit false

/-!
# Counts of digits

The example of `digits` has exactly as many digits as the first parameter says, and the first of
them is not zero.  A parameter that is missing, that is no number, or that asks for no digit or for
too many leaves the example and the stream alone, and one error says which of these it is.
-/

namespace FieldGuide

/-! ## The width of an example -/

/-- Exactly so many decimal digits, the first of which is not zero: a number if they are few, else a
text. -/
def Example.FillsWidth (count : Int64) (value : Example) : Prop :=
  value.IsOfDigits count ∧ value.display.toList.head? ≠ some '0'

theorem Example.fillsWidth_number {count n : Int64} {s s' : Stream} (hpos : 1 ≤ count)
    (hfew : count < digitsAsText)
    (h : (Sampler.numberOfDigits (some count.toInt.toNat) true).run s = .ok (n, s')) :
    (number n).FillsWidth count := by
  refine ⟨isOfDigits_number hpos hfew h, ?_⟩
  have hone : 1 ≤ count.toInt := Int64.le_iff_toInt_le.mp hpos
  have hnine : count.toInt < 9 := Int64.lt_iff_toInt_lt.mp hfew
  obtain ⟨hlow, -⟩ := Sampler.numberOfDigits_bounds (by omega) (by omega) h
  have hpower : 0 < 10 ^ (count.toInt.toNat - 1) := Nat.pow_pos (by decide)
  obtain ⟨m, hm⟩ : ∃ m : Nat, n.toInt = m := Int.eq_ofNat_of_zero_le (by omega)
  rw [display_number hm]
  exact Number.head?_figures_ne (by omega)

theorem Example.fillsWidth_text {count : Int64} {cs : List Char} {s s' : Stream}
    (hmany : ¬ count < digitsAsText)
    (h : (Sampler.digitString count.toInt.toNat).run s = .ok (cs, s')) :
    (text (String.ofList cs)).FillsWidth count := by
  refine ⟨isOfDigits_text hmany h, ?_⟩
  rw [display, String.toList_ofList]
  exact Sampler.head?_digitString_ne h

namespace Sampler

variable {s : Stream} {cause : Interruption}

/-- A number of exactly so many digits is one of those below a power of ten and not below the power
before. -/
theorem numberOfDigits_eq_error {digits : Nat} (hpos : 1 ≤ digits) (hdigits : digits ≤ 18)
    (h : (numberOfDigits (some digits) true).run s = .error cause) :
    cause = .exhausted ∧ (Draw.wide (10 ^ digits - 10 ^ (digits - 1))).Refuses s := by
  have hclamped : max 1 (min digits 18) = digits := by omega
  rw [numberOfDigits_eq, width, pure_bind, hclamped, between_width hpos hdigits,
    bind_pure_eq_error] at h
  exact below_eq_error_iff.mp h

/-- A draw that an example with so many digits needs refuses every word it looks at. -/
inductive DigitsRefused (count : Int64) (s : Stream) : Prop where
  /-- the draw of a number with so many digits -/
  | number (hfew : count < digitsAsText)
      (hrefuses : (Draw.wide (10 ^ count.toInt.toNat - 10 ^ (count.toInt.toNat - 1))).Refuses s)
  /-- the draw of one more chunk behind others that have too few digits -/
  | chunk (hmany : ¬count < digitsAsText) {indices : List Nat} {s₁ : Stream}
      (hdrawn : Drawn chunkCount s indices s₁)
      (hshort : (chunks indices).length < count.toInt.toNat)
      (hrefuses : (Draw.wide chunkCount).Refuses s₁)

theorem digitsRefused_of_numberOfDigits {count : Int64} (hpos : 1 ≤ count)
    (hfew : count < digitsAsText)
    (h : (numberOfDigits (some count.toInt.toNat) true).run s = .error cause) :
    cause = .exhausted ∧ DigitsRefused count s := by
  have hone : 1 ≤ count.toInt := Int64.le_iff_toInt_le.mp hpos
  have hnine : count.toInt < 9 := Int64.lt_iff_toInt_lt.mp hfew
  obtain ⟨rfl, hrefuses⟩ := numberOfDigits_eq_error (by omega) (by omega) h
  exact ⟨rfl, .number hfew hrefuses⟩

theorem digitsRefused_of_digitString {count : Int64} (hmany : ¬count < digitsAsText)
    (h : (digitString count.toInt.toNat).run s = .error cause) :
    cause = .exhausted ∧ DigitsRefused count s := by
  obtain ⟨indices, s₁, hdrawn, hshort, hlast⟩ := digitString_eq_error h
  obtain ⟨rfl, hrefuses⟩ := below_eq_error_iff.mp hlast
  exact ⟨rfl, .chunk hmany hdrawn hshort hrefuses⟩

end Sampler

/-! ## The description by the first parameter -/

/-- The description of a rule that shows its first parameter: one fragment, unless the parameter is
missing. -/
def Kind.DescribesFirst (k : Kind) (templates : Templates) (parameters : List String) (e : Entry)
    (a : Application) : Prop :=
  match parameters with
  | [] => a.describing = .dropped (.missingParameter k.name 0) ∧
      a.entry.description = e.description
  | raw :: _ => a.describing = .done ∧
      a.entry.description = e.description ++ [Template.fill (templates k.name) [raw]]

/-- What a rule on digits finds out: its description needs the first parameter only to be there. -/
theorem Kind.findings_digits (setting : Setting) (field : String) (parameters : List String) :
    ∃ arguments,
      Kind.digits.findings (Kind.digits.input setting field parameters (some .numeric)) =
          .ok ⟨arguments, .ofReading
            (digitsReading (Kind.digits.input setting field parameters (some .numeric)))⟩ ∧
        ∀ templates e chosen, Kind.digits.DescribesFirst templates parameters e
          (Kind.digits.settle templates e arguments chosen) := by
  cases parameters with
  | nil => exact ⟨_, rfl, fun _ _ _ => ⟨rfl, List.append_nil _⟩⟩
  | cons raw rest => exact ⟨_, rfl, fun _ _ _ => ⟨rfl, rfl⟩⟩

/-! ## Readable counts -/

variable {templates : Templates} {setting : Setting} {field : String} {parameters : List String}
  {e : Entry} {s : Stream}

theorem digitsReading_of_count {i : Input} {count : Int64}
    (hcount : ReadsInteger i.parameters 0 count) (hlow : 1 ≤ count) (hhigh : count ≤ mostDigits) :
    digitsReading i =
      if count < digitsAsText then
        .ok (.number <$> Sampler.numberOfDigits (some count.toInt.toNat) true)
      else
        .ok ((fun cs => .text (String.ofList cs)) <$>
          Sampler.digitString count.toInt.toNat) := by
  have hrange : ¬ (count < 1 ∨ mostDigits < count) := by
    rw [not_or, Int64.not_lt, Int64.not_lt]
    exact ⟨hlow, hhigh⟩
  rw [digitsReading, Input.integer_eq_ok.mpr hcount, ok_bind, if_neg hrange]
  rfl

/-- With a count that can be shown, the example is shown in exactly this width. -/
theorem apply_digits_of_count {count : Int64} (hcount : ReadsInteger parameters 0 count)
    (hlow : 1 ≤ count) (hhigh : count ≤ mostDigits) :
    Kind.digits.BringsAbout templates setting field parameters e s
        (Sampler.DigitsRefused count s) fun a _ =>
      a.entry.type = some .numeric ∧ a.effects.exemplifies = true ∧ a.exemplifying = .done ∧
        Kind.digits.DescribesFirst templates parameters e a ∧ a.entry.value.FillsWidth count := by
  obtain ⟨arguments, hfound, hdescribes⟩ := Kind.findings_digits setting field parameters
  have hreading := digitsReading_of_count
    (i := Kind.digits.input setting field parameters (some .numeric)) hcount hlow hhigh
  split at hreading
  · rename_i hfew
    rw [hreading] at hfound
    refine Kind.bringsAbout_of_draw hfound
      (fun _ h => Sampler.digitsRefused_of_numberOfDigits hlow hfew h) ?_
    intro n s' hdraw
    exact ⟨rfl, rfl, rfl, hdescribes _ _ _, Example.fillsWidth_number hlow hfew hdraw⟩
  · rename_i hmany
    rw [hreading] at hfound
    refine Kind.bringsAbout_of_draw hfound
      (fun _ h => Sampler.digitsRefused_of_digitString hmany h) ?_
    intro cs s' hdraw
    exact ⟨rfl, rfl, rfl, hdescribes _ _ _, Example.fillsWidth_text hmany hdraw⟩

/-! ## No such count -/

/-- Why no digits are shown. -/
inductive DigitsError (rule : String) (parameters : List String) : RuleError → Prop where
  | missing (hnone : parameters = []) : DigitsError rule parameters (.missingParameter rule 0)
  | unreadable {raw : String} (hraw : parameters[0]? = some raw)
      (hnot : ∀ n, ¬ ReadsInteger parameters 0 n) :
      DigitsError rule parameters (.invalidNumber rule raw)
  | outOfRange {count : Int64} (hcount : ReadsInteger parameters 0 count)
      (hrange : count < 1 ∨ mostDigits < count) :
      DigitsError rule parameters (.invalidNumber rule (toString count.toInt))

theorem digitsReading_eq_error {i : Input}
    (hnone : ∀ count, ReadsInteger i.parameters 0 count → count < 1 ∨ mostDigits < count) :
    ∃ error, digitsReading i = .error error ∧ DigitsError i.rule i.parameters error := by
  cases hraw : i.parameters[0]? with
  | none =>
    refine ⟨.missingParameter i.rule 0, ?_, .missing (by simpa using hraw)⟩
    simp [digitsReading, Input.integer, Input.parameter, hraw, bind, Except.bind]
  | some raw =>
    have hinteger := Input.integer_of_parameter hraw
    cases hn : Number.integer? (Text.trim raw.toList) with
    | none =>
      refine ⟨.invalidNumber i.rule raw, ?_, .unreadable hraw ?_⟩
      · rw [digitsReading, hinteger, hn]
        rfl
      · rintro n ⟨raw', hraw', hn'⟩
        rw [hraw, Option.some.injEq] at hraw'
        rw [← hraw', hn] at hn'
        cases hn'
    | some count =>
      have hcount : ReadsInteger i.parameters 0 count := ⟨raw, hraw, hn⟩
      refine ⟨_, ?_, .outOfRange hcount (hnone count hcount)⟩
      rw [digitsReading, Input.integer_eq_ok.mpr hcount, ok_bind, if_pos (hnone count hcount)]
      rfl

/-- Without a count that can be shown, value and stream stay, and one error tells why. -/
theorem apply_digits_of_no_count
    (hnone : ∀ count, ReadsInteger parameters 0 count → count < 1 ∨ mostDigits < count) :
    ∃ a error, (Kind.digits.apply templates setting field parameters e).run s = .ok (a, s) ∧
      a.entry.type = some .numeric ∧ a.effects.exemplifies = false ∧ a.entry.value = e.value ∧
        a.exemplifying = .dropped error ∧ DigitsError Kind.digits.name parameters error ∧
          Kind.digits.DescribesFirst templates parameters e a := by
  obtain ⟨arguments, hfound, hdescribes⟩ := Kind.findings_digits setting field parameters
  obtain ⟨error, hreading, herror⟩ := digitsReading_eq_error
    (i := Kind.digits.input setting field parameters (some .numeric)) hnone
  rw [hreading] at hfound
  refine ⟨_, error, Kind.apply_eq_ok.mpr ⟨_, .error error, hfound, ?_, rfl⟩, rfl, rfl, rfl, rfl,
    herror, hdescribes _ _ _⟩
  exact Plan.run_drop_eq_ok.mpr ⟨rfl, rfl⟩

/-- The example of `digits` has exactly the width that the first parameter asks for, or there is
none; the field becomes numeric in any case, and only a missing parameter costs the description.
Where a width is asked for, nothing but a draw of this very example can fail, which refuses every
word it looks at. -/
theorem apply_digits_exactly_or_not (templates : Templates) (setting : Setting) (field : String)
    (parameters : List String) (e : Entry) (s : Stream) :
    (∀ count : Int64, ReadsInteger parameters 0 count → 1 ≤ count → count ≤ 255 →
        Kind.digits.BringsAbout templates setting field parameters e s
            (Sampler.DigitsRefused count s) fun a _ =>
          a.entry.type = some .numeric ∧ a.effects.exemplifies = true ∧ a.exemplifying = .done ∧
            Kind.digits.DescribesFirst templates parameters e a ∧
              a.entry.value.FillsWidth count) ∧
      ((∀ count : Int64, ReadsInteger parameters 0 count → count < 1 ∨ 255 < count) →
        ∃ a error, (Kind.digits.apply templates setting field parameters e).run s = .ok (a, s) ∧
          a.entry.type = some .numeric ∧ a.effects.exemplifies = false ∧
            a.entry.value = e.value ∧ a.exemplifying = .dropped error ∧
              DigitsError Kind.digits.name parameters error ∧
                Kind.digits.DescribesFirst templates parameters e a) :=
  ⟨fun _ hcount hlow hhigh => apply_digits_of_count hcount hlow hhigh, apply_digits_of_no_count⟩

/-- Eight digits, the most that are a number, and nine, the fewest that are a text; and a count that
is too great by one, beside the greatest of all, for which a huge decimal stands. -/
theorem apply_digits_exactly_or_not_boundaries :
    (∃ a s', (Kind.digits.apply (fun _ => "") .fixed "f" ["8"] {}).run (.ofText "d") = .ok (a, s') ∧
      a.entry.type = some .numeric ∧ a.entry.value = .number 96955239 ∧
        a.entry.value.FillsWidth 8) ∧
      (∃ a s', (Kind.digits.apply (fun _ => "") .fixed "f" ["9"] {}).run (.ofText "a") =
          .ok (a, s') ∧
        a.entry.type = some .numeric ∧ a.entry.value = .text "109979254" ∧
          a.entry.value.FillsWidth 9) ∧
      (∃ a error, (Kind.digits.apply (fun _ => "") .fixed "f" ["256"] {}).run (.ofText "a") =
          .ok (a, .ofText "a") ∧
        a.entry.type = some .numeric ∧ a.effects.exemplifies = false ∧ a.entry.value = .empty ∧
          a.exemplifying = .dropped error ∧ DigitsError Kind.digits.name ["256"] error ∧
            Kind.digits.DescribesFirst (fun _ => "") ["256"] {} a) ∧
        ∃ a error, (Kind.digits.apply (fun _ => "") .fixed "f" ["1e300"] {}).run (.ofText "a") =
            .ok (a, .ofText "a") ∧
          a.entry.type = some .numeric ∧ a.effects.exemplifies = false ∧ a.entry.value = .empty ∧
            a.exemplifying = .dropped error ∧ DigitsError Kind.digits.name ["1e300"] error ∧
              Kind.digits.DescribesFirst (fun _ => "") ["1e300"] {} a := by
  have hreads {raw : String} {m n : Int64} (h : Number.integer? (Text.trim raw.toList) = some m)
      (hn : ReadsInteger [raw] 0 n) : n = m := by
    obtain ⟨raw', hraw, hn⟩ := hn
    cases hraw
    rw [h] at hn
    exact (Option.some.inj hn).symm
  refine ⟨?_, ?_, (apply_digits_exactly_or_not _ _ _ _ _ _).2 ?_,
    (apply_digits_exactly_or_not _ _ _ _ _ _).2 ?_⟩
  · have hvalue : ((Kind.digits.apply (fun _ => "") .fixed "f" ["8"] {}).run
        (.ofText "d")).toOption.map (·.1.entry.value) = some (.number 96955239) := by
      decide +kernel
    obtain ⟨a, s', hrun, ⟨htype, -, -, -, hwidth⟩, hshown⟩ :=
      ((apply_digits_exactly_or_not (fun _ => "") .fixed "f" ["8"] {} (.ofText "d")).1 8
        ⟨_, rfl, by decide⟩ (by decide) (by decide)).of_evaluated hvalue
    exact ⟨a, s', hrun, htype, hshown, hwidth⟩
  · have hvalue : ((Kind.digits.apply (fun _ => "") .fixed "f" ["9"] {}).run
        (.ofText "a")).toOption.map (·.1.entry.value) = some (.text "109979254") := by
      decide +kernel
    obtain ⟨a, s', hrun, ⟨htype, -, -, -, hwidth⟩, hshown⟩ :=
      ((apply_digits_exactly_or_not (fun _ => "") .fixed "f" ["9"] {} (.ofText "a")).1 9
        ⟨_, rfl, by decide⟩ (by decide) (by decide)).of_evaluated hvalue
    exact ⟨a, s', hrun, htype, hshown, hwidth⟩
  · intro count hcount
    rw [hreads (m := 256) (by decide) hcount]
    decide
  · intro count hcount
    rw [hreads (m := Int64.maxValue) (by decide +kernel) hcount]
    decide

end FieldGuide
