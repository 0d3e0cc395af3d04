import FieldGuide.Proofs.Findings
set_option autoImplicit false

/-!
# Accounting for effects

What one rule reports of itself, against what it did to its entry and to the stream.  Each effect
that a kind of rules declares is reported, or one error says why it was dropped; only a bound on one
side of a field without numbers is passed over in silence.
-/

namespace FieldGuide

/-! ## Errors -/

/-- The error of a dropped effect, if there is one. -/
def Fate.error? : Fate → Option RuleError
  | dropped error => some error
  | _ => none

theorem Fate.errors_eq (f : Fate) : f.errors = f.error?.toList := by
  cases f <;> rfl

theorem Application.dropped_eq (a : Application) :
    a.dropped = a.describing.error?.toList ++ a.exemplifying.error?.toList := by
  rw [dropped, Fate.errors_eq, Fate.errors_eq]

/-! ## Plans carried out -/

namespace Plan

variable {s s' : Stream} {chosen : Except RuleError (Option Example)}

theorem run_skip_eq_ok : skip.run.run s = .ok (chosen, s') ↔ chosen = .ok none ∧ s' = s := by
  rw [run, Sampler.pure_eq_ok, eq_comm, @eq_comm _ s]

theorem run_drop_eq_ok {error : RuleError} :
    (drop error).run.run s = .ok (chosen, s') ↔ chosen = .error error ∧ s' = s := by
  rw [run, Sampler.pure_eq_ok, eq_comm, @eq_comm _ s]

theorem run_draw_eq_ok {sampler : Sampler Example} :
    (draw sampler).run.run s = .ok (chosen, s') ↔
      ∃ value, sampler.run s = .ok (value, s') ∧ chosen = .ok (some value) := by
  rw [run, Sampler.bind_pure_eq_ok]

theorem Proper.tellsOf_of_run {i : Input} {plan : Plan} (h : plan.Proper i)
    (hrun : plan.run.run s = .ok (chosen, s')) {error : RuleError}
    (herror : (fateOfChoice chosen).error? = some error) : error.TellsOf i := by
  cases plan with
  | skip =>
    obtain ⟨rfl, rfl⟩ := run_skip_eq_ok.mp hrun
    cases herror
  | drop error' =>
    obtain ⟨rfl, rfl⟩ := run_drop_eq_ok.mp hrun
    cases herror
    exact h
  | draw sampler =>
    obtain ⟨value, -, rfl⟩ := run_draw_eq_ok.mp hrun
    cases herror

theorem Proper.rule_of_run {i : Input} {plan : Plan} (h : plan.Proper i)
    (hrun : plan.run.run s = .ok (chosen, s')) {error : RuleError}
    (herror : (fateOfChoice chosen).error? = some error) : error.rule = i.rule :=
  (h.tellsOf_of_run hrun herror).1

theorem Proper.steady {i : Input} {plan : Plan} (h : plan.Proper i) : plan.run.Steady := by
  cases plan with
  | skip => exact .pure _
  | drop error => exact .pure _
  | draw sampler => exact h.1.bind fun _ => .pure _

end Plan

/-- Choosing an example means to carry its plan out. -/
theorem Exemplifying.choose_eq_ok {i : Input} {x : Exemplifying} {s s' : Stream}
    {chosen : Except RuleError (Option Example)} :
    (x.choose i).run.run s = .ok (chosen, s') ↔
      ∃ plan, x.plan i = .ok plan ∧ plan.run.run s = .ok (chosen, s') := by
  rw [x.run_choose, Sampler.bind_eq_ok]
  constructor
  · rintro ⟨plan, s₁, hlift, hrun⟩
    obtain ⟨hplan, rfl⟩ := Sampler.lift_eq_ok.mp hlift
    exact ⟨plan, hplan, hrun⟩
  · rintro ⟨plan, hplan, hrun⟩
    exact ⟨plan, s, Sampler.lift_eq_ok.mpr ⟨hplan, rfl⟩, hrun⟩

/-! ## The description of a rule -/

/-- How the description of a rule went, with the error that dropped it. -/
inductive Kind.Describes (k : Kind) (templates : Templates) (i : Input) (e : Entry)
    (a : Application) : Option RuleError → Prop where
  /-- the rule describes nothing -/
  | undeclared (hspec : k.spec.describing = none) (heffect : a.effects.describes = false)
      (hkept : a.entry.description = e.description) : Describes k templates i e a none
  /-- one fragment has been added -/
  | done {d : Describing} {args : List String} (hspec : k.spec.describing = some d)
      (hargs : (d.arguments i).run = .ok (.ok args)) (heffect : a.effects.describes = true)
      (hgrown : a.entry.description = e.description ++ [Template.fill (templates k.name) args]) :
      Describes k templates i e a none
  /-- the arguments cannot be formed -/
  | dropped {d : Describing} {error : RuleError} (hspec : k.spec.describing = some d)
      (hargs : (d.arguments i).run = .ok (.error error)) (heffect : a.effects.describes = false)
      (hkept : a.entry.description = e.description) : Describes k templates i e a (some error)

theorem readArguments_some_eq_ok {i : Input} {d : Describing} {arguments : Arguments} :
    readArguments i (some d) = .ok arguments ↔
      ∃ r, (d.arguments i).run = .ok r ∧ arguments = some r := by
  rw [readArguments]
  rcases (d.arguments i).run with cause | r
  · simp [bind, Except.bind]
  · simp [bind, Except.bind, pure, Except.pure, eq_comm]

variable {templates : Templates} {e : Entry} {i : Input}

theorem Kind.describes_of_readArguments {k : Kind} {arguments : Arguments}
    (h : readArguments i k.spec.describing = .ok arguments)
    (chosen : Except RuleError (Option Example)) :
    k.Describes templates i e (k.settle templates e arguments chosen) arguments.fate.error? := by
  cases hspec : k.spec.describing with
  | none =>
    rw [hspec] at h
    cases h
    exact .undeclared hspec rfl (List.append_nil _)
  | some d =>
    rw [hspec] at h
    obtain ⟨error | args, hargs, rfl⟩ := readArguments_some_eq_ok.mp h
    · exact .dropped hspec hargs rfl (List.append_nil _)
    · exact .done hspec hargs rfl rfl

/-! ## The example of a rule -/

/-- How the example of a rule went, with the error that dropped it. -/
inductive Kind.Exemplifies (k : Kind) (i : Input) (e : Entry) (s : Stream) (a : Application)
    (s' : Stream) : Option RuleError → Prop where
  /-- the rule shows no example -/
  | undeclared (hspec : k.spec.exemplifying = none) (heffect : a.effects.exemplifies = false)
      (hkept : a.entry.value = e.value) (hstream : s' = s) : Exemplifies k i e s a s' none
  /-- a value has been chosen -/
  | done {x : Exemplifying} {value : Example} (hspec : k.spec.exemplifying = some x)
      (hchosen : (x.choose i).run.run s = .ok (.ok (some value), s'))
      (heffect : a.effects.exemplifies = true) (hvalue : a.entry.value = value) :
      Exemplifies k i e s a s' none
  /-- a parameter is missing or cannot be read -/
  | dropped {x : Exemplifying} {error : RuleError} (hspec : k.spec.exemplifying = some x)
      (hchosen : (x.choose i).run.run s = .ok (.error error, s'))
      (heffect : a.effects.exemplifies = false) (hkept : a.entry.value = e.value)
      (hstream : s' = s) : Exemplifies k i e s a s' (some error)
  /-- a bound on one side of a field without numbers -/
  | skipped (hbound : k = .min ∨ k = .max) (hinteger : a.entry.type ≠ some .integer)
      (hnumeric : a.entry.type ≠ some .numeric) (heffect : a.effects.exemplifies = false)
      (hkept : a.entry.value = e.value) (hstream : s' = s) : Exemplifies k i e s a s' none

theorem Input.isNumeric_eq_false {i : Input} :
    i.isNumeric = false ↔ i.type ≠ some .integer ∧ i.type ≠ some .numeric := by
  unfold Input.isNumeric
  rcases i.type with _ | type
  · simp
  · cases type <;> simp [FieldType.isNumeric]

theorem Kind.exemplifies_of_readPlan {k : Kind} {plan : Plan} {s s' : Stream}
    {chosen : Except RuleError (Option Example)}
    (htype : i.type = k.spec.typing.apply e.type)
    (hplan : readPlan i k.spec.exemplifying = .ok plan)
    (hrun : plan.run.run s = .ok (chosen, s')) (arguments : Arguments) :
    k.Exemplifies i e s (k.settle templates e arguments chosen) s'
      (fateOfChoice chosen).error? := by
  cases hspec : k.spec.exemplifying with
  | none =>
    rw [hspec] at hplan
    cases hplan
    obtain ⟨rfl, rfl⟩ := Plan.run_skip_eq_ok.mp hrun
    exact .undeclared hspec rfl rfl rfl
  | some x =>
    rw [hspec] at hplan
    have hchosen := Exemplifying.choose_eq_ok.mpr ⟨plan, hplan, hrun⟩
    cases plan with
    | skip =>
      obtain ⟨rfl, rfl⟩ := Plan.run_skip_eq_ok.mp hrun
      obtain ⟨hbound, hnumbers⟩ := Exemplifying.plan_eq_skip.mp hplan
      rw [Input.isNumeric_eq_false, htype] at hnumbers
      refine .skipped (Kind.spec_skips.mp ?_) hnumbers.1 hnumbers.2 rfl rfl rfl
      rcases hbound with rfl | rfl
      · exact .inl hspec
      · exact .inr hspec
    | drop error =>
      obtain ⟨rfl, rfl⟩ := Plan.run_drop_eq_ok.mp hrun
      exact .dropped hspec hchosen rfl rfl rfl
    | draw sampler =>
      obtain ⟨value, -, rfl⟩ := Plan.run_draw_eq_ok.mp hrun
      exact .done hspec hchosen rfl rfl

/-! ## The report of a rule -/

theorem Typing.isForce_iff {t : Typing} : t.isForce = true ↔ ∃ type, t = .force type := by
  cases t <;> simp [isForce]

theorem Typing.isFallback_iff {t : Typing} : t.isFallback = true ↔ ∃ type, t = .fallback type := by
  cases t <;> simp [isFallback]

/-- The error of the arguments that have been read tells of the rule. -/
theorem Kind.tellsOf_of_readArguments {k : Kind} {arguments : Arguments} {error : RuleError}
    (h : readArguments i k.spec.describing = .ok arguments)
    (herror : arguments.fate.error? = some error) : error.TellsOf i := by
  cases hspec : k.spec.describing with
  | none =>
    rw [hspec] at h
    cases h
    cases herror
  | some d =>
    rw [hspec] at h
    obtain ⟨error' | args, hargs, rfl⟩ := readArguments_some_eq_ok.mp h
    · cases herror
      exact d.arguments_failsOver i _ hargs error rfl
    · cases herror

theorem Kind.rule_of_readArguments {k : Kind} {arguments : Arguments} {error : RuleError}
    (h : readArguments i k.spec.describing = .ok arguments)
    (herror : arguments.fate.error? = some error) : error.rule = i.rule :=
  (tellsOf_of_readArguments h herror).1

theorem Kind.plan_proper {k : Kind} {plan : Plan}
    (h : readPlan i k.spec.exemplifying = .ok plan) : plan.Proper i := by
  cases hspec : k.spec.exemplifying with
  | none =>
    rw [hspec] at h
    cases h
    trivial
  | some x =>
    rw [hspec] at h
    refine Exemplifying.plan_proper ?_ h
    rintro rfl
    exact k.spec_ne_fixed_empty hspec

/-- A value that is chosen is never the missing one. -/
theorem Kind.choose_ne_empty {k : Kind} {x : Exemplifying} {s s' : Stream} {value : Example}
    (hspec : k.spec.exemplifying = some x)
    (h : (x.choose i).run.run s = .ok (.ok (some value), s')) : value ≠ .empty := by
  obtain ⟨plan, hplan, hrun⟩ := Exemplifying.choose_eq_ok.mp h
  have hproper : plan.Proper i := by
    refine Kind.plan_proper (k := k) ?_
    rw [hspec]
    exact hplan
  cases plan with
  | skip => cases (Plan.run_skip_eq_ok.mp hrun).1
  | drop error => cases (Plan.run_drop_eq_ok.mp hrun).1
  | draw sampler =>
    obtain ⟨value', hdraw, heq⟩ := Plan.run_draw_eq_ok.mp hrun
    cases heq
    exact hproper.2 hdraw

/-- Both effects of a rule that can fail have been had, or the rule reports why not. -/
theorem Kind.effects_of_apply {k : Kind} {setting : Setting} {field : String}
    {parameters : List String} {s s' : Stream} {a : Application}
    (h : (k.apply templates setting field parameters e).run s = .ok (a, s')) :
    k.Describes templates (k.input setting field parameters a.entry.type) e a
        a.describing.error? ∧
      k.Exemplifies (k.input setting field parameters a.entry.type) e s a s'
        a.exemplifying.error? := by
  obtain ⟨⟨arguments, plan⟩, chosen, hfound, hrun, rfl⟩ := Kind.apply_eq_ok.mp h
  obtain ⟨harguments, hplan⟩ := Kind.findings_eq_ok.mp hfound
  constructor
  · exact k.describes_of_readArguments harguments chosen
  · exact k.exemplifies_of_readPlan rfl hplan hrun arguments

/-- The errors of a rule tell of it. -/
theorem Kind.tellsOf_of_apply {k : Kind} {setting : Setting} {field : String}
    {parameters : List String} {s s' : Stream} {a : Application}
    (h : (k.apply templates setting field parameters e).run s = .ok (a, s')) {error : RuleError}
    (herror : error ∈ a.dropped) :
    error.TellsOf (k.input setting field parameters a.entry.type) := by
  obtain ⟨⟨arguments, plan⟩, chosen, hfound, hrun, rfl⟩ := Kind.apply_eq_ok.mp h
  obtain ⟨harguments, hplan⟩ := Kind.findings_eq_ok.mp hfound
  rw [Application.dropped_eq, List.mem_append, Option.mem_toList, Option.mem_toList] at herror
  rcases herror with herror | herror
  · exact Kind.tellsOf_of_readArguments harguments herror
  · exact (Kind.plan_proper hplan).tellsOf_of_run hrun herror

/-- A full account of what a rule did to an entry and a stream, and of what it reports. -/
structure Kind.Accounts (k : Kind) (templates : Templates) (setting : Setting) (field : String)
    (parameters : List String) (e : Entry) (s : Stream) (a : Application) (s' : Stream) :
    Prop where
  required : a.effects.required = k.spec.required
  entry_required : a.entry.required = (e.required || k.spec.required)
  forcesType : a.effects.forcesType = true ↔ ∃ type, k.spec.typing = .force type
  defaultsType :
    a.effects.defaultsType = true ↔ (∃ type, k.spec.typing = .fallback type) ∧ e.type = none
  entry_type : a.entry.type = k.spec.typing.apply e.type
  describing : k.Describes templates (k.input setting field parameters a.entry.type) e a
    a.describing.error?
  exemplifying : k.Exemplifies (k.input setting field parameters a.entry.type) e s a s'
    a.exemplifying.error?
  /-- the error of the description stands before the error of the example -/
  dropped : a.dropped = a.describing.error?.toList ++ a.exemplifying.error?.toList
  length_dropped : a.dropped.length ≤ 2
  rule_of_mem_dropped : ∀ error ∈ a.dropped, error.rule = k.name

/-- No effect that a rule declares is lost in silence. -/
theorem Kind.accounts_of_apply {k : Kind} {setting : Setting} {field : String}
    {parameters : List String} {s s' : Stream} {a : Application}
    (h : (k.apply templates setting field parameters e).run s = .ok (a, s')) :
    k.Accounts templates setting field parameters e s a s' := by
  obtain ⟨⟨arguments, plan⟩, chosen, hfound, hrun, rfl⟩ := Kind.apply_eq_ok.mp h
  obtain ⟨harguments, hplan⟩ := Kind.findings_eq_ok.mp hfound
  obtain ⟨hdescribing, hexemplifying⟩ := Kind.effects_of_apply h
  constructor
  case required => rfl
  case entry_required => rfl
  case forcesType => exact Typing.isForce_iff
  case defaultsType =>
    rw [← Typing.isFallback_iff, ← Option.isNone_iff_eq_none, ← Bool.and_eq_true]
    rfl
  case entry_type => rfl
  case describing => exact hdescribing
  case exemplifying => exact hexemplifying
  case dropped => exact Application.dropped_eq _
  case length_dropped =>
    rw [Application.dropped_eq, List.length_append]
    exact Nat.add_le_add Option.length_toList_le Option.length_toList_le
  case rule_of_mem_dropped =>
    intro error herror
    rw [Application.dropped_eq, List.mem_append, Option.mem_toList, Option.mem_toList] at herror
    rcases herror with herror | herror
    · exact Kind.rule_of_readArguments harguments herror
    · exact (Kind.plan_proper hplan).rule_of_run hrun herror

/-- A number that cannot be read loses the rule its example, and nothing else. -/
theorem Kind.accounts_of_apply_digits :
    ∃ a s', (Kind.digits.apply (fun _ => "") .fixed "f" ["ten"] {}).run (.ofText "s") =
        .ok (a, s') ∧ a.dropped = [.invalidNumber "digits" "ten"] ∧
      Kind.digits.Accounts (fun _ => "") .fixed "f" ["ten"] {} (.ofText "s") a s' :=
  ⟨_, _, rfl, rfl, Kind.accounts_of_apply rfl⟩

end FieldGuide
