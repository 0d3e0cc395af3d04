import FieldGuide.Proofs.Contributions
import FieldGuide.Proofs.Digits
import FieldGuide.Proofs.Explanation
import FieldGuide.Proofs.Interruptions
set_option autoImplicit false

/-!
# What the seed influences

Two runs of the same rules with different seeds part at the first draw, and still they keep in step:
no type, no description, no effect and no error depends on what is drawn.  So two fields that differ
in their seed alone differ in nothing but their values, and even these are alike where the rule that
chooses them says how they look.
-/

namespace FieldGuide

variable {templates : Templates} {setting : Setting} {field : String}

/-! ## Examples that are numbers -/

/-- Every example that comes of the plan has the property. -/
def Plan.Gives (P : Example → Prop) : Plan → Prop
  | draw sampler => ∀ ⦃s s' : Stream⦄ ⦃value : Example⦄, sampler.run s = .ok (value, s') → P value
  | _ => True

theorem Plan.Gives.of_run {P : Example → Prop} {plan : Plan} (h : plan.Gives P) {s s' : Stream}
    {value : Example} (hrun : plan.run.run s = .ok (.ok (some value), s')) : P value := by
  cases plan with
  | skip => cases (run_skip_eq_ok.mp hrun).1
  | drop error => cases (run_drop_eq_ok.mp hrun).1
  | draw sampler =>
    obtain ⟨value', hdraw, heq⟩ := run_draw_eq_ok.mp hrun
    cases heq
    exact h hdraw

/-- The value is a number. -/
def Example.IsNumber (value : Example) : Prop := ∃ n, value = .number n

theorem Plan.Gives.imp {P Q : Example → Prop} {plan : Plan} (h : plan.Gives P)
    (hPQ : ∀ value, P value → Q value) : plan.Gives Q := by
  cases plan with
  | skip => trivial
  | drop error => trivial
  | draw sampler => exact fun s s' value hdraw => hPQ value (h hdraw)

theorem Plan.gives_draw_map {α : Type} {P : Example → Prop} {x : Sampler α} {g : α → Example}
    (h : ∀ {s s' : Stream} {a : α}, x.run s = .ok (a, s') → P (g a)) :
    (draw (g <$> x)).Gives P := by
  intro s s' value hrun
  obtain ⟨a, ha, rfl⟩ := Sampler.map_eq_ok.mp hrun
  exact h ha

theorem Plan.gives_number {x : Sampler Int64} : (draw (.number <$> x)).Gives Example.IsNumber :=
  gives_draw_map fun {_ _ n} _ => ⟨n, rfl⟩

theorem Plan.gives_read {α : Type} {P : Example → Prop} (r : Except RuleError α)
    {x : α → Sampler Example} (hx : ∀ a, (draw (x a)).Gives P) : (ofReading (r.map x)).Gives P := by
  cases r with
  | error error => trivial
  | ok a => exact hx a

/-- The choices of numbers. -/
def Exemplifying.numbers : List Exemplifying := [.number, .atLeast, .atMost, .within]

theorem Exemplifying.plan_gives_number {i : Input} {x : Exemplifying} (hx : x ∈ numbers)
    {plan : Plan} (h : x.plan i = .ok plan) : plan.Gives Example.IsNumber := by
  simp only [numbers, List.mem_cons, List.not_mem_nil, or_false] at hx
  rcases hx with rfl | rfl | rfl | rfl
  · cases h
    exact Plan.gives_number
  · rw [Exemplifying.plan] at h
    split at h <;> cases h
    · exact Plan.gives_read _ fun _ => Plan.gives_number
    · trivial
  · rw [Exemplifying.plan] at h
    split at h <;> cases h
    · exact Plan.gives_read _ fun _ => Plan.gives_number
    · trivial
  · cases h
    cases i.integer 0 with
    | error error => trivial
    | ok a => exact Plan.gives_read (i.integer 1) fun _ => Plan.gives_number

/-- The kinds of rules whose examples are numbers. -/
def Kind.numbers : List Kind := [.min, .max, .between, .integer, .numeric]

theorem Kind.plan_gives_number {k : Kind} (hk : k ∈ numbers) {i : Input} {x : Exemplifying}
    (hspec : k.spec.exemplifying = some x) {plan : Plan} (h : x.plan i = .ok plan) :
    plan.Gives Example.IsNumber := by
  have hx : x ∈ Exemplifying.numbers := by
    simp only [numbers, List.mem_cons, List.not_mem_nil, or_false] at hk
    rcases hk with rfl | rfl | rfl | rfl | rfl <;> cases hspec <;> decide
  exact Exemplifying.plan_gives_number hx h

/-! ## The value of a field -/

variable (setting field)

/-- The rule of the outcome chooses the value, on a field of some type and somewhere in a stream. -/
def Outcome.Yields (o : Outcome) (value : Example) : Prop :=
  ∃ k x type plan s s', Kind.ofName? o.rule = some k ∧ k.spec.exemplifying = some x ∧
    x.plan (k.input setting field o.parameters type) = .ok plan ∧
      plan.run.run s = .ok (.ok (some value), s')

variable {setting field}

namespace Outcome.Yields

variable {o : Outcome} {value : Example}

theorem ne_empty (h : o.Yields setting field value) : value ≠ .empty := by
  obtain ⟨k, x, type, plan, s, s', -, hspec, hplan, hrun⟩ := h
  exact Kind.choose_ne_empty hspec (Exemplifying.choose_eq_ok.mpr ⟨plan, hplan, hrun⟩)

/-- The plan of a rule whose kind is known. -/
theorem of_name (h : o.Yields setting field value) {k : Kind} (hrule : o.rule = k.name) :
    ∃ x type plan s s', k.spec.exemplifying = some x ∧
      x.plan (k.input setting field o.parameters type) = .ok plan ∧
        plan.run.run s = .ok (.ok (some value), s') := by
  obtain ⟨k', x, type, plan, s, s', hname, hspec, hplan, hrun⟩ := h
  have hkind : k' = k := by
    rw [hrule, Kind.ofName?_name] at hname
    exact (Option.some.inj hname).symm
  subst hkind
  exact ⟨x, type, plan, s, s', hspec, hplan, hrun⟩

theorem isNumber (h : o.Yields setting field value) (hrule : o.rule ∈ Kind.numbers.map Kind.name) :
    value.IsNumber := by
  obtain ⟨k, hk, hname⟩ := List.mem_map.mp hrule
  obtain ⟨x, type, plan, s, s', hspec, hplan, hrun⟩ := h.of_name hname.symm
  exact (Kind.plan_gives_number hk hspec hplan).of_run hrun

/-- The value that a rule of digits chooses has as many digits as its first parameter says, and it
is a number just if these are few. -/
theorem isOfDigits (h : o.Yields setting field value) (hrule : o.rule = Kind.digits.name) :
    ∃ count, (Kind.digits.input setting field o.parameters none).integer 0 = .ok count ∧
      value.IsOfDigits count := by
  obtain ⟨x, type, plan, s, s', hspec, hplan, hrun⟩ := h.of_name hrule
  obtain rfl : Exemplifying.digits = x := Option.some.inj hspec
  cases hreading : digitsReading (Kind.digits.input setting field o.parameters type) with
  | error error =>
    rw [Exemplifying.plan, hreading] at hplan
    cases hplan
    cases (Plan.run_drop_eq_ok.mp hrun).1
  | ok sampler =>
    rw [Exemplifying.plan, hreading] at hplan
    cases hplan
    obtain ⟨value', hdraw, heq⟩ := Plan.run_draw_eq_ok.mp hrun
    cases heq
    obtain ⟨count, hcount, hdigits⟩ := digitsReading_eq_ok hreading
    exact ⟨count, hcount, hdigits hdraw⟩

end Outcome.Yields

/-- The rule of the last outcome with an example chooses the value that a run leaves. -/
theorem Run.yields_of_lastWith {rules : List String} {e e' : Entry} {s s' : Stream}
    {outcomes : List Outcome} (h : Run templates setting field rules e s outcomes e' s')
    {index : Nat} {o : Outcome} (hlast : LastWith Effects.exemplifies outcomes index o) :
    o.Yields setting field e'.value := by
  obtain ⟨hindex, hexample, hnone⟩ := hlast
  induction h generalizing index with
  | nil e s => cases hindex
  | cons step rest ih =>
    cases index with
    | zero =>
      obtain rfl := Option.some.inj hindex
      rw [(rest.value_of_noneWith hnone).1]
      obtain ⟨k, x, hname, hspec, hchosen⟩ := step.value_of_exemplifies hexample
      obtain ⟨plan, hplan, hrun⟩ := Exemplifying.choose_eq_ok.mp hchosen
      exact ⟨k, x, _, plan, _, _, hname, hspec, hplan, hrun⟩
    | succ index => exact ih hindex hnone

/-- The rule of the last outcome with an example chooses the value of a field. -/
theorem yields_of_aggregate {rules : List String} {seed : String} {a : Aggregate}
    (h : aggregate templates setting field rules seed = .ok a) {index : Nat} {o : Outcome}
    (hlast : LastWith Effects.exemplifies a.outcomes index o) :
    o.Yields setting field a.entry.value := by
  obtain ⟨e, s, s', hrun, hfinal⟩ := aggregate_eq_ok h
  have hyields := hrun.yields_of_lastWith hlast
  rwa [value_of_finalize hfinal hyields.ne_empty]

/-! ## Two seeds -/

/-- Two values of one kind, each written with exactly so many digits. -/
def Example.AlikeInDigits (v w : Example) : Prop :=
  ∃ count, v.HasDigits count ∧ w.HasDigits count ∧
    ((∃ m n, v = .number m ∧ w = .number n) ∨ ∃ t u, v = .text t ∧ w = .text u)

theorem Example.alikeInDigits_of_isOfDigits {v w : Example} {count : Int64}
    (hv : v.IsOfDigits count) (hw : w.IsOfDigits count) : v.AlikeInDigits w := by
  obtain ⟨hvdigits, hvkind⟩ := hv
  obtain ⟨hwdigits, hwkind⟩ := hw
  refine ⟨_, hvdigits, hwdigits, ?_⟩
  split at hvkind
  · rename_i hfew
    rw [if_pos hfew] at hwkind
    obtain ⟨m, rfl⟩ := hvkind
    obtain ⟨n, rfl⟩ := hwkind
    exact .inl ⟨m, n, rfl, rfl⟩
  · rename_i hmany
    rw [if_neg hmany] at hwkind
    obtain ⟨t, rfl⟩ := hvkind
    obtain ⟨u, rfl⟩ := hwkind
    exact .inr ⟨t, u, rfl, rfl⟩

/-- Two traced fields that differ in their values alone, and whose values are alike where a rule
that asks for a number or for digits has chosen them. -/
structure Aggregate.DiffersInValue (a b : Aggregate) : Prop where
  required : b.entry.required = a.entry.required
  type : b.entry.type = a.entry.type
  description : b.entry.description = a.entry.description
  outcomes : b.outcomes = a.outcomes
  number : ∀ index o, LastWith Effects.exemplifies a.outcomes index o →
    o.rule ∈ Kind.numbers.map Kind.name → a.entry.value.IsNumber ∧ b.entry.value.IsNumber
  digits : ∀ index o, LastWith Effects.exemplifies a.outcomes index o →
    o.rule = Kind.digits.name → a.entry.value.AlikeInDigits b.entry.value

theorem differsInValue_of_aggregate {rules : List String} {seed other : String} {a b : Aggregate}
    (ha : aggregate templates setting field rules seed = .ok a)
    (hb : aggregate templates setting field rules other = .ok b) : a.DiffersInValue b := by
  obtain ⟨e, s, s', hrun, hfinal⟩ := aggregate_eq_ok ha
  obtain ⟨d, t, t', hrun', hfinal'⟩ := aggregate_eq_ok hb
  obtain ⟨houtcomes, htype⟩ := hrun.outcomes_eq hrun' rfl
  constructor
  case required => rw [required_of_aggregate ha, required_of_aggregate hb]
  case type => rw [type_of_finalize hfinal, type_of_finalize hfinal', htype]
  case description => rw [description_of_aggregate ha, description_of_aggregate hb]
  case outcomes => exact houtcomes.symm
  case number =>
    intro index o hlast hrule
    exact ⟨(yields_of_aggregate ha hlast).isNumber hrule,
      (yields_of_aggregate hb (houtcomes ▸ hlast)).isNumber hrule⟩
  case digits =>
    intro index o hlast hrule
    obtain ⟨count, hcount, hdigits⟩ := (yields_of_aggregate ha hlast).isOfDigits hrule
    obtain ⟨count', hcount', hdigits'⟩ :=
      (yields_of_aggregate hb (houtcomes ▸ hlast)).isOfDigits hrule
    obtain rfl := Except.ok.inj (hcount.symm.trans hcount')
    exact Example.alikeInDigits_of_isOfDigits hdigits hdigits'

/-- The seed of a field influences its value and nothing else. -/
theorem aggregate_other_seed {rules : List String} {seed : String} {a : Aggregate}
    (h : aggregate templates setting field rules seed = .ok a) (other : String) :
    (∃ b, aggregate templates setting field rules other = .ok b ∧ a.DiffersInValue b) ∨
      aggregate templates setting field rules other = .error .exhausted ∧
        RulesStall templates setting field rules other := by
  rcases aggregate_of_subset h (List.Subset.refl rules) other with ⟨b, hb⟩ | hstalls
  · exact .inl ⟨b, hb, differsInValue_of_aggregate h hb⟩
  · exact .inr hstalls

/-- Where every number of 64 bits is allowed, each word of a stream is one. -/
theorem aggregate_other_seed_between :
    ∃ a b,
      aggregate (fun _ => ":min") .fixed "f"
          ["required", "between:-9223372036854775808,9223372036854775807", "min:ten"] "s" = .ok a ∧
        aggregate (fun _ => ":min") .fixed "f"
            ["required", "between:-9223372036854775808,9223372036854775807", "min:ten"] "t" =
          .ok b ∧ a.DiffersInValue b := by
  obtain ⟨a, ha⟩ : ∃ a, aggregate (fun _ => ":min") .fixed "f"
      ["required", "between:-9223372036854775808,9223372036854775807", "min:ten"] "s" = .ok a :=
    ⟨_, rfl⟩
  obtain ⟨b', hb'⟩ : ∃ b, aggregate (fun _ => ":min") .fixed "f"
      ["required", "between:-9223372036854775808,9223372036854775807", "min:ten"] "t" = .ok b :=
    ⟨_, rfl⟩
  rcases aggregate_other_seed ha "t" with ⟨b, hb, hdiffers⟩ | ⟨hnone, -⟩
  · exact ⟨a, b, ha, hb, hdiffers⟩
  · rw [hb'] at hnone
    cases hnone

end FieldGuide
