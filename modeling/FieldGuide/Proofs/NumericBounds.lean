import FieldGuide.Aggregation
import FieldGuide.Proofs.Accounts
import FieldGuide.Proofs.Digits
set_option autoImplicit false

/-!
# Examples within bounds

A number is drawn between two bounds whichever of them is the smaller one, over all the numbers of
64 bits.  So the example of `between` lies between its parameters, and the example of `min` is never
below its parameter.  The example of `max` is drawn between zero and its parameter: a parameter
below zero becomes the lower bound, and every example but the parameter itself lies above it.
-/

namespace FieldGuide

/-! ## Draws in words -/

namespace Sampler

theorem between_comm (a b : Int64) : between a b = between b a := by
  unfold between
  rw [Int.min_comm, Int.max_comm]

/-- A number from `low` to `high`, computed in words of 64 bits whose sums wrap around.  How many
numbers there are is such a word, and it is zero where every number is allowed. -/
def drawInWords (low high : Int64) : Sampler Int64 := do
  let count := high.toUInt64 - low.toUInt64 + 1
  if count = 0 then return (UInt64.ofNat (← word64)).toInt64
  else return low + (UInt64.ofNat (← below count.toNat)).toInt64

theorem toNat_toUInt64 (a : Int64) :
    (a.toUInt64.toNat : Int) = if a.toInt < 0 then a.toInt + 2 ^ 64 else a.toInt := by
  have hlt := a.toUInt64.toNat_lt
  have hint : a.toInt = if 2 * a.toUInt64.toNat < 2 ^ 64 then (a.toUInt64.toNat : Int)
      else a.toUInt64.toNat - (2 ^ 64 : Nat) := BitVec.toInt_eq_toNat_cond a.toBitVec
  split at hint <;> split <;> omega

/-- The count of the numbers of a range loses nothing as a word, unless it is all of them. -/
theorem toNat_count {low high : Int64} (h : low.toInt ≤ high.toInt) :
    (high.toUInt64 - low.toUInt64 + 1).toNat = (high.toInt - low.toInt + 1).toNat % 2 ^ 64 := by
  have hlow := toNat_toUInt64 low
  have hhigh := toNat_toUInt64 high
  have := low.le_toInt
  have := low.toInt_lt
  have := high.le_toInt
  have := high.toInt_lt
  rw [UInt64.toNat_add, UInt64.toNat_sub, UInt64.toNat_one]
  split at hlow <;> split at hhigh <;> omega

theorem between_of_le {low high : Int64} (h : low ≤ high) :
    between low high = drawInWords low high := by
  have hle : low.toInt ≤ high.toInt := Int64.le_iff_toInt_le.mp h
  have hcount := toNat_count hle
  have hlow := low.le_toInt
  have hhigh := high.toInt_lt
  -- the word is zero only where the count is one more than the greatest word
  have hzero : high.toUInt64 - low.toUInt64 + 1 = 0 ↔
      (high.toInt - low.toInt + 1).toNat = 2 ^ 64 := by
    rw [← UInt64.toNat_inj, hcount, UInt64.toNat_zero]
    omega
  unfold between drawInWords
  simp only [Int.min_eq_left hle, Int.max_eq_right hle, hzero]
  split
  · refine bind_congr fun w => ?_
    rw [UInt64.toInt64_ofNat', Int64.ofInt_eq_ofNat]
  · rename_i hne
    rw [hcount, Nat.mod_eq_of_lt (by omega)]
    refine bind_congr fun index => ?_
    rw [UInt64.toInt64_ofNat', ← Int64.ofInt_eq_ofNat, Int64.ofInt_add, Int64.ofInt_toInt]

/-- The draws between zero and a bound are never all of the numbers. -/
theorem between_zero (bound : Int64) :
    between 0 bound = do
      return Int64.ofInt (min 0 bound.toInt + (← below (bound.toInt.natAbs + 1))) := by
  have hlow := bound.le_toInt
  have hhigh := bound.toInt_lt
  have hcount : (max 0 bound.toInt - min 0 bound.toInt + 1).toNat = bound.toInt.natAbs + 1 := by
    omega
  exact between_of_few hcount (by omega)

end Sampler

/-! ## Rules that draw -/

/-- The rule is applied, and the property holds of what it comes to.  It comes to nothing only under a
condition that says which draw of its example is refused. -/
def Kind.BringsAbout (k : Kind) (templates : Templates) (setting : Setting) (field : String)
    (parameters : List String) (e : Entry) (s : Stream) (refused : Prop)
    (P : Application → Stream → Prop) : Prop :=
  (∃ a s', (k.apply templates setting field parameters e).run s = .ok (a, s') ∧ P a s') ∨
    (k.apply templates setting field parameters e).run s = .error .exhausted ∧ refused

variable {templates : Templates} {setting : Setting} {field : String} {parameters : List String}
  {e : Entry} {s : Stream}

/-- A rule that draws its example does what follows from the draw. -/
theorem Kind.bringsAbout_of_draw {α : Type} {k : Kind} {arguments : Arguments}
    {sampler : Sampler α} {g : α → Example}
    (hfound : k.findings (k.input setting field parameters (k.spec.typing.apply e.type)) =
      .ok ⟨arguments, .draw (g <$> sampler)⟩)
    {refused : Prop} {P : Application → Stream → Prop}
    (hrefused : ∀ cause, sampler.run s = .error cause → cause = .exhausted ∧ refused)
    (hdrawn : ∀ x s', sampler.run s = .ok (x, s') →
      P (k.settle templates e arguments (.ok (some (g x)))) s') :
    k.BringsAbout templates setting field parameters e s refused P := by
  cases hrun : sampler.run s with
  | error cause =>
    obtain ⟨rfl, hrefuses⟩ := hrefused cause hrun
    refine .inr ⟨Kind.apply_eq_error.mpr (.inr ⟨_, hfound, ?_⟩), hrefuses⟩
    exact Sampler.bind_pure_eq_error.mpr (Sampler.map_eq_error.mpr hrun)
  | ok drawn =>
    obtain ⟨x, s'⟩ := drawn
    refine .inl ⟨_, s', Kind.apply_eq_ok.mpr ⟨_, _, hfound, ?_, rfl⟩, hdrawn x s' hrun⟩
    exact Plan.run_draw_eq_ok.mpr ⟨g x, Sampler.map_eq_ok.mpr ⟨x, hrun, rfl⟩, rfl⟩

/-- Where the rule has been evaluated, it has come to something with the property. -/
theorem Kind.BringsAbout.of_evaluated {β : Type} {k : Kind} {refused : Prop}
    {P : Application → Stream → Prop}
    (h : k.BringsAbout templates setting field parameters e s refused P)
    {g : Application × Stream → β} {b : β}
    (hvalue : ((k.apply templates setting field parameters e).run s).toOption.map g = some b) :
    ∃ a s', (k.apply templates setting field parameters e).run s = .ok (a, s') ∧ P a s' ∧
      g (a, s') = b := by
  rcases h with ⟨a, s', hrun, hP⟩ | ⟨hnone, -⟩
  · rw [hrun] at hvalue
    exact ⟨a, s', hrun, hP, Option.some.inj hvalue⟩
  · rw [hnone] at hvalue
    cases hvalue

/-- Only a description with the bound of a date can break off before the example is planned. -/
theorem Kind.findings_of_plan {k : Kind} {i : Input} {x : Exemplifying} {plan : Plan}
    (hdescribing : k.spec.describing ≠ some .bound) (hexemplifying : k.spec.exemplifying = some x)
    (hplan : x.plan i = .ok plan) : ∃ arguments, k.findings i = .ok ⟨arguments, plan⟩ := by
  cases harguments : readArguments i k.spec.describing with
  | error cause => exact absurd (readArguments_eq_error.mp harguments).1 hdescribing
  | ok arguments =>
    refine ⟨arguments, Kind.findings_eq_ok.mpr ⟨harguments, ?_⟩⟩
    rw [hexemplifying]
    exact hplan

/-! ## Parameters that are numbers -/

/-- The parameter with an index is there, and it reads as a whole number. -/
def ReadsInteger (parameters : List String) (index : Nat) (n : Int64) : Prop :=
  ∃ raw, parameters[index]? = some raw ∧ Number.integer? (Text.trim raw.toList) = some n

theorem Input.integer_of_parameter {i : Input} {index : Nat} {raw : String}
    (h : i.parameters[index]? = some raw) :
    i.integer index =
      match Number.integer? (Text.trim raw.toList) with
      | some n => .ok n
      | none => .error (.invalidNumber i.rule raw) := by
  rw [Input.integer, Input.parameter_eq_ok.mpr h, ok_bind]
  cases Number.integer? (Text.trim raw.toList) <;> rfl

theorem Input.integer_eq_ok {i : Input} {index : Nat} {n : Int64} :
    i.integer index = .ok n ↔ ReadsInteger i.parameters index n := by
  unfold ReadsInteger
  cases h : i.parameters[index]? with
  | none => simp [Input.integer, Input.parameter, h, bind, Except.bind]
  | some raw =>
    simp only [Input.integer_of_parameter h, Option.some.injEq, exists_eq_left']
    cases Number.integer? (Text.trim raw.toList) <;> simp

theorem Input.isNumeric_eq_true {i : Input} :
    i.isNumeric = true ↔ i.type = some .integer ∨ i.type = some .numeric := by
  unfold Input.isNumeric
  rcases i.type with _ | type
  · simp
  · cases type <;> simp [FieldType.isNumeric]

/-! ## A maximum -/

theorem Exemplifying.plan_atMost {i : Input} {bound : Int64}
    (hbound : ReadsInteger i.parameters 0 bound)
    (htype : i.type = some .integer ∨ i.type = some .numeric) :
    atMost.plan i = .ok (.draw (.number <$> Sampler.between 0 bound)) := by
  rw [plan, if_pos (Input.isNumeric_eq_true.mpr htype), Input.integer_eq_ok.mpr hbound]
  rfl

/-- The example that a maximum sets is the number with a drawn index from the lower one of zero and
the maximum on.  So every maximum from zero on is respected, and one below zero just if the first
index is drawn. -/
theorem apply_max_respects_iff {bound : Int64} (hbound : ReadsInteger parameters 0 bound)
    (htype : e.type = some .integer ∨ e.type = some .numeric) :
    Kind.max.BringsAbout templates setting field parameters e s
        ((Sampler.Draw.wide (bound.toInt.natAbs + 1)).Refuses s) fun a s' =>
      ∃ index n, (Sampler.below (bound.toInt.natAbs + 1)).run s = .ok (index, s') ∧
        a.effects.exemplifies = true ∧ a.entry.value = .number n ∧
          n.toInt = min 0 bound.toInt + index ∧ n.toInt ≤ max 0 bound.toInt ∧
            (n ≤ bound ↔ 0 ≤ bound ∨ index = 0) := by
  obtain ⟨arguments, hfound⟩ := Kind.findings_of_plan (k := .max)
    (i := Kind.max.input setting field parameters e.type) (by decide) rfl
    (Exemplifying.plan_atMost hbound htype)
  rw [Sampler.between_zero] at hfound
  refine Kind.bringsAbout_of_draw hfound
    (fun _ h => Sampler.below_eq_error_iff.mp (Sampler.bind_pure_eq_error.mp h)) ?_
  intro n s' hdraw
  obtain ⟨index, hindex, rfl⟩ := Sampler.bind_pure_eq_ok.mp hdraw
  have hlt := Sampler.below_lt (Nat.succ_pos _) hindex
  have hlow := bound.le_toInt
  have hhigh := bound.toInt_lt
  have hn : (Int64.ofInt (min 0 bound.toInt + index)).toInt = min 0 bound.toInt + index :=
    Int64.toInt_ofInt_of_le (by omega) (by omega)
  refine ⟨index, _, hindex, rfl, rfl, hn, by omega, ?_⟩
  rw [Int64.le_iff_toInt_le, Int64.le_iff_toInt_le, hn, Int64.toInt_zero]
  omega

/-- The lowest maximum of all, on a field of integers: the example is the number with the index that
the first word selects, and lies above the maximum. -/
theorem apply_max_respects_iff_lowest :
    ReadsInteger ["-9223372036854775808"] 0 Int64.minValue ∧
      ∃ a s', (Kind.max.apply (fun _ => "") .fixed "f" ["-9223372036854775808"]
          { type := some .integer }).run (.ofText "b") = .ok (a, s') ∧
        (Sampler.below (Int64.minValue.toInt.natAbs + 1)).run (.ofText "b") =
            .ok (8905577649167441120, s') ∧
          a.effects.exemplifies = true ∧ a.entry.value = .number (-317794387687334688) ∧
            ¬ (-317794387687334688 : Int64) ≤ Int64.minValue := by
  have hreads : ReadsInteger ["-9223372036854775808"] 0 Int64.minValue := ⟨_, rfl, by decide⟩
  have hvalue : ((Kind.max.apply (fun _ => "") .fixed "f" ["-9223372036854775808"]
      { type := some .integer }).run (.ofText "b")).toOption.map (·.1.entry.value) =
        some (.number (-317794387687334688)) := by
    decide +kernel
  have hmax : Kind.max.BringsAbout (fun _ => "") .fixed "f" ["-9223372036854775808"]
      { type := some .integer } (.ofText "b") _ _ := apply_max_respects_iff hreads (.inl rfl)
  obtain ⟨a, s', hrun, ⟨index, n, hindex, hexemplifies, hn, hsum, -, hiff⟩, hshown⟩ :=
    hmax.of_evaluated hvalue
  obtain rfl : n = -317794387687334688 := Example.number.inj (hn.symm.trans hshown)
  obtain rfl : index = 8905577649167441120 := by
    have hbound : Int64.minValue.toInt = -2 ^ 63 := by decide
    have hnumber : (-317794387687334688 : Int64).toInt = -317794387687334688 := by decide
    omega
  exact ⟨hreads, a, s', hrun, hindex, hexemplifies, hn,
    fun hle => absurd (hiff.mp hle) (by decide)⟩

/-- Not every maximum is respected: there is a field whose example lies above the lowest number of
all, which is its maximum. -/
theorem aggregate_above_max :
    (aggregateEntry (fun _ => "") .fixed "f"
          ["digits_between:1,2", "max:-9223372036854775808"] "s").toOption =
        some {
          type := some .numeric
          value := .number (-8299255334584253109)
          description := ["", ""] } ∧
      Rule.canonical "max:-9223372036854775808" = ⟨Kind.max.name, ["-9223372036854775808"]⟩ ∧
        ReadsInteger ["-9223372036854775808"] 0 Int64.minValue ∧
          ¬ (-8299255334584253109 : Int64) ≤ Int64.minValue :=
  ⟨by decide +kernel, by decide, ⟨_, rfl, by decide⟩, by decide⟩

/-! ## Bounds on both sides, and a minimum -/

theorem Exemplifying.plan_within {i : Input} {a b : Int64} (ha : ReadsInteger i.parameters 0 a)
    (hb : ReadsInteger i.parameters 1 b) :
    within.plan i = .ok (.draw (.number <$> Sampler.between a b)) := by
  rw [plan, Input.integer_eq_ok.mpr ha, Input.integer_eq_ok.mpr hb]
  rfl

theorem Exemplifying.plan_atLeast {i : Input} {bound : Int64}
    (hbound : ReadsInteger i.parameters 0 bound)
    (htype : i.type = some .integer ∨ i.type = some .numeric) :
    atLeast.plan i =
      .ok (.draw (.number <$> Sampler.between bound (max Sampler.greatest bound))) := by
  rw [plan, if_pos (Input.isNumeric_eq_true.mpr htype), Input.integer_eq_ok.mpr hbound]
  rfl

theorem apply_between_within {a b : Int64} (ha : ReadsInteger parameters 0 a)
    (hb : ReadsInteger parameters 1 b) :
    Kind.between.BringsAbout templates setting field parameters e s
        ((Sampler.Draw.within a b).Refuses s) fun p s' =>
      ∃ n, (Sampler.between a b).run s = .ok (n, s') ∧ p.effects.exemplifies = true ∧
        p.entry.value = .number n ∧
          min a.toInt b.toInt ≤ n.toInt ∧ n.toInt ≤ max a.toInt b.toInt := by
  obtain ⟨arguments, hfound⟩ := Kind.findings_of_plan (k := .between)
    (i := Kind.between.input setting field parameters (Kind.between.spec.typing.apply e.type))
    (by decide) rfl (Exemplifying.plan_within ha hb)
  refine Kind.bringsAbout_of_draw hfound (fun _ h => Sampler.between_eq_error_iff.mp h) ?_
  intro n s' hdraw
  exact ⟨n, hdraw, rfl, rfl, Sampler.between_bounds hdraw⟩

/-- The upper bound of an example with a minimum. -/
theorem toInt_max_greatest (bound : Int64) :
    (max Sampler.greatest bound).toInt = max 2147483647 bound.toInt := by
  change (if Sampler.greatest ≤ bound then bound else Sampler.greatest).toInt = _
  have hgreatest : Sampler.greatest.toInt = 2147483647 := rfl
  simp only [Int64.le_iff_toInt_le, hgreatest]
  split <;> omega

theorem apply_min_within {bound : Int64} (hbound : ReadsInteger parameters 0 bound)
    (htype : e.type = some .integer ∨ e.type = some .numeric) :
    Kind.min.BringsAbout templates setting field parameters e s
        ((Sampler.Draw.within bound (max Sampler.greatest bound)).Refuses s) fun p _ =>
      ∃ n, p.effects.exemplifies = true ∧ p.entry.value = .number n ∧
        bound.toInt ≤ n.toInt ∧ n.toInt ≤ max bound.toInt 2147483647 := by
  obtain ⟨arguments, hfound⟩ := Kind.findings_of_plan (k := .min)
    (i := Kind.min.input setting field parameters e.type) (by decide) rfl
    (Exemplifying.plan_atLeast hbound htype)
  refine Kind.bringsAbout_of_draw hfound (fun _ h => Sampler.between_eq_error_iff.mp h) ?_
  intro n s' hdraw
  have hbounds := Sampler.between_bounds hdraw
  have hgreatest := toInt_max_greatest bound
  exact ⟨n, rfl, rfl, by omega, by omega⟩

/-- A number drawn between two bounds lies between them whichever of them is the smaller one, and
the order of the bounds shows neither in the number nor in the stream.  So do the examples of rules
with two bounds, and those of rules with a minimum. -/
theorem between_stays_within (a b : Int64) (s : Stream) :
    (Sampler.between b a).run s = (Sampler.between a b).run s ∧
      Sampler.between a b =
          (if a ≤ b then Sampler.drawInWords a b else Sampler.drawInWords b a) ∧
        (∀ n s', (Sampler.between a b).run s = .ok (n, s') →
          min a.toInt b.toInt ≤ n.toInt ∧ n.toInt ≤ max a.toInt b.toInt) ∧
        (∀ templates setting field parameters e,
          ReadsInteger parameters 0 a → ReadsInteger parameters 1 b →
            Kind.between.BringsAbout templates setting field parameters e s
                ((Sampler.Draw.within a b).Refuses s) fun p s' =>
              ∃ n, (Sampler.between a b).run s = .ok (n, s') ∧ p.effects.exemplifies = true ∧
                p.entry.value = .number n ∧
                  min a.toInt b.toInt ≤ n.toInt ∧ n.toInt ≤ max a.toInt b.toInt) ∧
        (∀ templates setting field parameters e,
          ReadsInteger parameters 0 a → e.type = some .integer ∨ e.type = some .numeric →
            Kind.min.BringsAbout templates setting field parameters e s
                ((Sampler.Draw.within a (max Sampler.greatest a)).Refuses s) fun p _ =>
              ∃ n, p.effects.exemplifies = true ∧ p.entry.value = .number n ∧
                a.toInt ≤ n.toInt ∧ n.toInt ≤ max a.toInt 2147483647) := by
  refine ⟨by rw [Sampler.between_comm], ?_, fun n s' => Sampler.between_bounds, ?_, ?_⟩
  · split
    · rename_i hle
      exact Sampler.between_of_le hle
    · rename_i hnot
      rw [Sampler.between_comm]
      exact Sampler.between_of_le (Int64.le_of_lt (Int64.not_le.mp hnot))
  · intro templates setting field parameters e ha hb
    exact apply_between_within ha hb
  · intro templates setting field parameters e ha htype
    exact apply_min_within ha htype

/-- Where every number of 64 bits is allowed, and with the greatest minimum of all. -/
theorem between_stays_within_extremes :
    (Sampler.between Int64.maxValue Int64.minValue).run (.ofText "a") =
        (Sampler.between Int64.minValue Int64.maxValue).run (.ofText "a") ∧
      (∃ p s', (Kind.between.apply (fun _ => "") .fixed "f"
          ["-9223372036854775808", "9223372036854775807"] {}).run (.ofText "a") = .ok (p, s') ∧
        (Sampler.between Int64.minValue Int64.maxValue).run (.ofText "a") =
            .ok (9007601680012646545, s') ∧
          p.effects.exemplifies = true ∧ p.entry.value = .number 9007601680012646545) ∧
        ∃ p s', (Kind.min.apply (fun _ => "") .fixed "f" ["9223372036854775807"]
            { type := some .numeric }).run (.ofText "a") = .ok (p, s') ∧
          p.effects.exemplifies = true ∧ p.entry.value = .number Int64.maxValue := by
  obtain ⟨hcomm, -, -, hbetween, -⟩ :=
    between_stays_within Int64.minValue Int64.maxValue (.ofText "a")
  obtain ⟨-, -, -, -, hmin⟩ := between_stays_within Int64.maxValue Int64.maxValue (.ofText "a")
  refine ⟨hcomm, ?_, ?_⟩
  · have hvalue : ((Kind.between.apply (fun _ => "") .fixed "f"
        ["-9223372036854775808", "9223372036854775807"] {}).run
          (.ofText "a")).toOption.map (·.1.entry.value) = some (.number 9007601680012646545) := by
      decide +kernel
    obtain ⟨p, s', hrun, ⟨n, hdraw, hexemplifies, hn, -, -⟩, hshown⟩ :=
      (hbetween (fun _ => "") .fixed "f" ["-9223372036854775808", "9223372036854775807"] {}
        ⟨_, rfl, by decide⟩ ⟨_, rfl, by decide⟩).of_evaluated hvalue
    obtain rfl : n = 9007601680012646545 := Example.number.inj (hn.symm.trans hshown)
    exact ⟨p, s', hrun, hdraw, hexemplifies, hn⟩
  · have hvalue : ((Kind.min.apply (fun _ => "") .fixed "f" ["9223372036854775807"]
        { type := some .numeric }).run (.ofText "a")).toOption.map (·.1.entry.value) =
          some (.number Int64.maxValue) := by
      decide +kernel
    obtain ⟨p, s', hrun, ⟨n, hexemplifies, -, -, -⟩, hshown⟩ :=
      (hmin (fun _ => "") .fixed "f" ["9223372036854775807"] { type := some .numeric }
        ⟨_, rfl, by decide⟩ (.inr rfl)).of_evaluated hvalue
    exact ⟨p, s', hrun, hexemplifies, hshown⟩

end FieldGuide
