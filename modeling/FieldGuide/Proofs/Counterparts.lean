import FieldGuide.Proofs.Composition
set_option autoImplicit false

/-!
# The same rules in other surroundings

The surroundings of a rule are the templates, the setting against which dates are read, and the name
of the field.  A rule reads little of them: a date phrase is read against the setting, a column
without a name takes that of the field, and a template gives nothing but its text.  So a run of some
rules has a counterpart in other surroundings, which draws at the same places and reports the same.
-/

namespace FieldGuide

/-! ## What a kind of rules reads of its surroundings -/

/-- The first parameter, if there is one, is a date in figures. -/
def InFigures (parameters : List String) : Prop :=
  ∀ bound, parameters[0]? = some bound →
    ∃ m, Calendar.Iso.read? (Text.trim bound.toList) = some m

theorem Kind.spec_tableAndColumn {k : Kind} :
    k.spec.describing = some .tableAndColumn ↔ k = .existing := by
  cases k <;> simp [spec]

theorem Kind.spec_referenceTime {k : Kind} :
    k.spec.exemplifying = some .referenceTime ↔ k = .dateFormat := by
  cases k <;> simp [spec]

section Reading

variable {k : Kind} {setting setting' : Setting} {field field' : String}
  {parameters : List String} {type : Option FieldType}

/-- A date in figures is the same against every setting. -/
theorem Input.moment_of_inFigures (setting' : Setting) (field' : String)
    (hfigures : InFigures parameters) {raw : String}
    (hraw : (k.input setting field parameters type).parameter 0 = .ok raw) :
    (k.input setting field parameters type).moment raw =
      (k.input setting' field' parameters type).moment raw := by
  obtain ⟨m, hm⟩ := hfigures raw (Input.parameter_eq_ok.mp hraw)
  unfold Input.moment
  dsimp only
  rw [hm]

theorem Attempt.lift_ok_bind {α β : Type} (a : α) (f : α → Attempt β) :
    (liftM (.ok a : Except RuleError α) : Attempt α) >>= f = f a := rfl

theorem Attempt.lift_error_bind {α β : Type} (error : RuleError) (f : α → Attempt β) :
    (liftM (.error error : Except RuleError α) : Attempt α) >>= f = throw error := rfl

/-- What goes on from the moment of the first parameter is the same against every setting, if that
parameter is a date in figures. -/
theorem moment_bind_of_inFigures {α : Type} (hfigures : InFigures parameters)
    (f : String → Calendar.Moment → Attempt α) :
    (do
      let raw ← (liftM ((k.input setting field parameters type).parameter 0) : Attempt String)
      f raw (← (k.input setting field parameters type).moment raw)) =
    (do
      let raw ← (liftM ((k.input setting' field' parameters type).parameter 0) : Attempt String)
      f raw (← (k.input setting' field' parameters type).moment raw)) := by
  have hsame : (k.input setting' field' parameters type).parameter 0 =
      (k.input setting field parameters type).parameter 0 := rfl
  rw [hsame]
  cases hraw : (k.input setting field parameters type).parameter 0 with
  | error error => rw [Attempt.lift_error_bind, Attempt.lift_error_bind]
  | ok raw =>
    have hmoment := Input.moment_of_inFigures setting' field' hfigures hraw
    simp only [Attempt.lift_ok_bind, hmoment]

/-- The arguments of a description read the setting for a date phrase alone, and the field for a
column without a name. -/
theorem Describing.arguments_eq {d : Describing}
    (hbound : d = .bound → setting' = setting ∨ InFigures parameters)
    (hcolumn : d = .tableAndColumn → field' = field ∨ parameters.length ≠ 1) :
    d.arguments (k.input setting' field' parameters type) =
      d.arguments (k.input setting field parameters type) := by
  cases d with
  | bound =>
    rcases hbound rfl with rfl | hfigures
    · rfl
    · exact moment_bind_of_inFigures hfigures fun raw m => do return [← boundText m]
  | tableAndColumn =>
    rcases hcolumn rfl with rfl | hlength
    · rfl
    · match parameters, hlength with
      | [], _ => rfl
      | _ :: _ :: _, _ => rfl
  | _ => rfl

/-- Whether a description can be formed depends on the setting for a date phrase alone. -/
theorem Kind.readArguments_fate
    (hbound : k = .after ∨ k = .before → setting' = setting ∨ InFigures parameters)
    {arguments : Arguments}
    (h : readArguments (k.input setting field parameters type) k.spec.describing =
      .ok arguments) :
    ∃ arguments', readArguments (k.input setting' field' parameters type) k.spec.describing =
        .ok arguments' ∧ arguments'.fate = arguments.fate := by
  cases hspec : k.spec.describing with
  | none =>
    rw [hspec] at h
    exact ⟨arguments, h, rfl⟩
  | some d =>
    rw [hspec] at h
    by_cases hcolumn : d = .tableAndColumn
    · subst hcolumn
      obtain ⟨r, hr, rfl⟩ := readArguments_some_eq_ok.mp h
      match parameters, hr with
      | [], hr => exact ⟨some r, readArguments_some_eq_ok.mpr ⟨r, hr, rfl⟩, rfl⟩
      | table :: rest, hr =>
        cases hr
        exact ⟨_, readArguments_some_eq_ok.mpr ⟨_, rfl, rfl⟩, rfl⟩
    · have hsame : d.arguments (k.input setting' field' parameters type) =
          d.arguments (k.input setting field parameters type) := by
        refine Describing.arguments_eq ?_ fun h => absurd h hcolumn
        rintro rfl
        exact hbound (Kind.spec_bound.mp hspec)
      refine ⟨arguments, ?_, rfl⟩
      rw [readArguments, hsame]
      exact h

/-- Plans that move on alike: they are the same, or each has its value without drawing. -/
inductive Plan.Alike : Plan → Plan → Prop where
  | same (plan : Plan) : Alike plan plan
  | still (value value' : Example) : Alike (.draw (pure value)) (.draw (pure value'))

theorem Plan.Alike.run_eq_ok {plan plan' : Plan} (h : plan.Alike plan') {s s' : Stream}
    {chosen : Except RuleError (Option Example)} (hrun : plan.run.run s = .ok (chosen, s')) :
    ∃ chosen', plan'.run.run s = .ok (chosen', s') ∧
      fateOfChoice chosen' = fateOfChoice chosen := by
  cases h with
  | same => exact ⟨chosen, hrun, rfl⟩
  | still value value' =>
    obtain ⟨drawn, hdraw, rfl⟩ := Plan.run_draw_eq_ok.mp hrun
    obtain ⟨-, rfl⟩ := Sampler.pure_eq_ok.mp hdraw
    exact ⟨.ok (some value'), Plan.run_draw_eq_ok.mpr ⟨value', rfl, rfl⟩, rfl⟩

theorem dayFromBound_of_inFigures (hfigures : InFigures parameters) (days : Int) :
    dayFromBound (k.input setting' field' parameters type) days =
      dayFromBound (k.input setting field parameters type) days :=
  moment_bind_of_inFigures hfigures _

/-- The plan of an example reads the setting for the day beside a date phrase and for the reference
time. -/
theorem Exemplifying.plan_eq {x : Exemplifying}
    (hbound : (∃ days, x = .dayFromBound days) → setting' = setting ∨ InFigures parameters)
    (htime : x = .referenceTime → setting' = setting) :
    x.plan (k.input setting' field' parameters type) =
      x.plan (k.input setting field parameters type) := by
  cases x with
  | dayFromBound days =>
    rcases hbound ⟨days, rfl⟩ with rfl | hfigures
    · rfl
    · exact congrArg Plan.ofAttempt (dayFromBound_of_inFigures hfigures days)
  | referenceTime =>
    obtain rfl := htime rfl
    rfl
  | _ => rfl

/-- The reference time can be shown in every format. -/
theorem referenceTime_eq_done {i : Input} {format : String} (h : i.parameter 0 = .ok format) :
    ∃ text, (referenceTime i).run = .ok (.ok (.text text)) := by
  obtain ⟨text, htext⟩ := Option.isSome_iff_exists.mp
    (Calendar.format?_isSome format.toList i.setting.reference)
  refine ⟨String.ofList text, Attempt.bind_eq_done.mpr ⟨format, ?_, ?_⟩⟩
  · rw [Attempt.run_lift, h]
  · rw [htext]
    rfl

theorem referenceTime_eq_dropped {i : Input} {error : RuleError}
    (h : i.parameter 0 = .error error) : (referenceTime i).run = .ok (.error error) :=
  Attempt.bind_eq_dropped.mpr (.inl (by rw [Attempt.run_lift, h]))

theorem Plan.ofAttempt_of_run {a : Attempt Example} {r : Except RuleError Example}
    (h : a.run = .ok r) : Plan.ofAttempt a = .ok (ofReading (r.map pure)) := by
  rw [ofAttempt, h]
  rfl

theorem referenceTime_alike {plan : Plan}
    (h : Plan.ofAttempt (referenceTime (k.input setting field parameters type)) = .ok plan) :
    ∃ plan', Plan.ofAttempt (referenceTime (k.input setting' field' parameters type)) =
        .ok plan' ∧ plan.Alike plan' := by
  let i := k.input setting' field' parameters type
  have hparameter : i.parameter 0 = (k.input setting field parameters type).parameter 0 := rfl
  cases hformat : (k.input setting field parameters type).parameter 0 with
  | error error =>
    rw [Plan.ofAttempt_of_run (referenceTime_eq_dropped hformat)] at h
    cases h
    rw [hformat] at hparameter
    exact ⟨_, Plan.ofAttempt_of_run (referenceTime_eq_dropped hparameter), .same _⟩
  | ok format =>
    obtain ⟨text, htext⟩ := referenceTime_eq_done hformat
    rw [Plan.ofAttempt_of_run htext] at h
    cases h
    rw [hformat] at hparameter
    obtain ⟨text', htext'⟩ := referenceTime_eq_done hparameter
    exact ⟨_, Plan.ofAttempt_of_run htext', .still _ _⟩

/-- The plan of an example has a counterpart that moves on alike, and it is the same plan but for
the reference time. -/
theorem Kind.readPlan_alike
    (hbound : k = .after ∨ k = .before → setting' = setting ∨ InFigures parameters) {plan : Plan}
    (h : readPlan (k.input setting field parameters type) k.spec.exemplifying = .ok plan) :
    ∃ plan', readPlan (k.input setting' field' parameters type) k.spec.exemplifying = .ok plan' ∧
      plan.Alike plan' ∧ (setting' = setting ∨ k ≠ .dateFormat → plan' = plan) := by
  cases hspec : k.spec.exemplifying with
  | none =>
    rw [hspec] at h
    exact ⟨plan, h, .same plan, fun _ => rfl⟩
  | some x =>
    rw [hspec] at h
    have hbound' : (∃ days, x = .dayFromBound days) →
        setting' = setting ∨ InFigures parameters := by
      rintro ⟨days, rfl⟩
      exact hbound (Kind.spec_dayFromBound.mp ⟨days, hspec⟩)
    by_cases htime : x = .referenceTime → setting' = setting
    · refine ⟨plan, ?_, .same plan, fun _ => rfl⟩
      rw [readPlan, Exemplifying.plan_eq hbound' htime]
      exact h
    · obtain ⟨rfl, hsetting⟩ := Classical.not_imp.mp htime
      obtain ⟨plan', hplan', halike⟩ := referenceTime_alike h
      refine ⟨plan', hplan', halike, ?_⟩
      rintro (hsame | hkind)
      · exact absurd hsame hsetting
      · exact absurd (Kind.spec_referenceTime.mp hspec) hkind

end Reading

/-! ## Steps and runs in other surroundings -/

variable {templates templates' : Templates} {setting setting' : Setting} {field field' : String}

/-- If the rule bounds a date, then with a date in figures. -/
def Rule.BoundInFigures (raw : String) : Prop :=
  (canonical raw).name = Kind.after.name ∨ (canonical raw).name = Kind.before.name →
    InFigures (canonical raw).parameters

/-- What a rule reports follows from the type of its field and from what became of its description
and its example. -/
theorem Kind.report_eq (k : Kind) (templates templates' : Templates) {e d : Entry}
    {arguments arguments' : Arguments} {chosen chosen' : Except RuleError (Option Example)}
    (harguments : arguments'.fate = arguments.fate)
    (hchosen : fateOfChoice chosen' = fateOfChoice chosen) (htype : d.type = e.type) :
    (k.settle templates' d arguments' chosen').effects =
        (k.settle templates e arguments chosen).effects ∧
      (k.settle templates' d arguments' chosen').dropped =
        (k.settle templates e arguments chosen).dropped := by
  simp only [settle, Application.dropped, harguments, hchosen, htype, and_self]

theorem valueAfter_of_done {chosen : Except RuleError (Option Example)} (old old' : Example)
    (h : fateOfChoice chosen = .done) : valueAfter old chosen = valueAfter old' chosen := by
  rcases chosen with error | (_ | value)
  · cases h
  · cases h
  · rfl

/-- A step has a counterpart in other surroundings, with the same outcome and to the same place in
the stream.  It chooses the same value, unless that is the reference time. -/
theorem Step.counterpart {raw : String} {e e' d : Entry} {s s' : Stream} {o : Outcome}
    (h : Step templates setting field raw e s o e' s')
    (hbound : setting' = setting ∨ Rule.BoundInFigures raw) (htype : d.type = e.type) :
    ∃ d', Step templates' setting' field' raw d s o d' s' ∧ d'.type = e'.type ∧
      (o.effects.exemplifies = true → setting' = setting ∨ o.rule ≠ Kind.dateFormat.name →
        d'.value = e'.value) := by
  cases h with
  | unknown hname =>
    refine ⟨d, .unknown hname, htype, ?_⟩
    intro hexample
    cases hexample
  | @applied k a s' hname happly =>
    obtain ⟨found, chosen, hfound, hrun, rfl⟩ := Kind.apply_eq_ok.mp happly
    obtain ⟨harguments, hplan⟩ := Kind.findings_eq_ok.mp hfound
    have hbound' : k = .after ∨ k = .before →
        setting' = setting ∨ InFigures (Rule.canonical raw).parameters := by
      intro hkind
      refine hbound.imp_right fun hfigures => hfigures ?_
      rw [← Kind.name_of_ofName? hname]
      exact hkind.imp (congrArg Kind.name) (congrArg Kind.name)
    obtain ⟨arguments', harguments', hfate⟩ := Kind.readArguments_fate hbound' harguments
    obtain ⟨plan', hplan', halike, hsame⟩ := Kind.readPlan_alike hbound' hplan
    obtain ⟨chosen', hrun', hchosen⟩ := halike.run_eq_ok hrun
    have happly' : (k.apply templates' setting' field' (Rule.canonical raw).parameters d).run s =
        .ok (k.settle templates' d arguments' chosen', s') := by
      refine Kind.apply_eq_ok.mpr ⟨⟨arguments', plan'⟩, chosen', ?_, hrun', rfl⟩
      rw [htype]
      exact Kind.findings_eq_ok.mpr ⟨harguments', hplan'⟩
    obtain ⟨heffects, hdropped⟩ := k.report_eq templates templates' hfate hchosen htype
    have hstep := Step.applied hname happly'
    rw [heffects, hdropped] at hstep
    refine ⟨_, hstep, congrArg k.spec.typing.apply htype, ?_⟩
    intro hexample hsurroundings
    have hkind : setting' = setting ∨ k ≠ .dateFormat := by
      refine hsurroundings.imp_right ?_
      rintro hrule rfl
      exact hrule (Kind.name_of_ofName? hname).symm
    obtain rfl := hsame hkind
    rw [hrun] at hrun'
    cases hrun'
    exact valueAfter_of_done _ _ (beq_iff_eq.mp hexample)

/-- A run has a counterpart in other surroundings, with the same outcomes and to the same place in
the stream. -/
theorem Run.counterpart (templates' : Templates) (field' : String) {rules : List String}
    {e e' d : Entry} {s s' : Stream} {outcomes : List Outcome}
    (h : Run templates setting field rules e s outcomes e' s')
    (hbound : setting' = setting ∨ ∀ raw ∈ rules, Rule.BoundInFigures raw)
    (htype : d.type = e.type) :
    ∃ d', Run templates' setting' field' rules d s outcomes d' s' ∧ d'.type = e'.type ∧
      ∀ index o, LastWith Effects.exemplifies outcomes index o →
        setting' = setting ∨ o.rule ≠ Kind.dateFormat.name → d'.value = e'.value := by
  induction h generalizing d with
  | nil e s =>
    refine ⟨d, .nil d s, htype, ?_⟩
    rintro index o ⟨hindex, -⟩
    cases hindex
  | cons step rest ih =>
    obtain ⟨d₁, step', htype₁, hvalue⟩ :=
      step.counterpart (hbound.imp_right fun h => h _ List.mem_cons_self) htype
    obtain ⟨d₂, rest', htype₂, hlater⟩ :=
      ih (hbound.imp_right fun h raw hmem => h raw (List.mem_cons_of_mem _ hmem)) htype₁
    refine ⟨d₂, .cons step' rest', htype₂, ?_⟩
    rintro index o ⟨hindex, hexample, hnone⟩ hsurroundings
    cases index with
    | zero =>
      obtain rfl := Option.some.inj hindex
      rw [(rest.value_of_noneWith hnone).1, (rest'.value_of_noneWith hnone).1]
      exact hvalue hexample hsurroundings
    | succ index => exact hlater index o ⟨hindex, hexample, hnone⟩ hsurroundings

/-! ## Fields in other surroundings -/

/-- Two traced fields of one record, but for their values and descriptions, with the same
outcomes. -/
structure Aggregate.InStep (a b : Aggregate) : Prop where
  required : b.entry.required = a.entry.required
  type : b.entry.type = a.entry.type
  outcomes : b.outcomes = a.outcomes

/-- A run leaves an entry without a value where none of its rules chooses one. -/
theorem Run.value_eq_empty_iff {rules : List String} {seed : String} {e : Entry} {s : Stream}
    {outcomes : List Outcome}
    (h : Run templates setting field rules {} (Stream.ofText seed) outcomes e s) :
    e.value = .empty ↔ NoneWith Effects.exemplifies outcomes := by
  constructor
  · intro hempty
    rcases h.value_eq with ⟨index, o, -, -, hne⟩ | ⟨hnone, -, -⟩
    · exact absurd hempty hne
    · exact hnone
  · intro hnone
    exact (h.value_of_noneWith hnone).1

/-- Completing an entry comes to an end if completing another one does, both or none of which lack a
value. -/
theorem finalize_returns {e d entry : Entry} {s s' : Stream}
    (hempty : d.value = .empty ↔ e.value = .empty) (h : (finalize e).run s = .ok (entry, s')) :
    ∃ entry', (finalize d).run s = .ok (entry', s') := by
  rcases finalize_eq_ok.mp h with ⟨hlacks, w, hword, -⟩ | ⟨hhas, rfl, -⟩
  · exact ⟨_, finalize_eq_ok.mpr (.inl ⟨hempty.mpr hlacks, w, hword, rfl⟩)⟩
  · exact ⟨_, finalize_eq_ok.mpr (.inr ⟨mt hempty.mp hhas, rfl, rfl⟩)⟩

/-- A field has a counterpart in other surroundings, with the same value unless that is the
reference time. -/
theorem aggregate_counterpart (templates' : Templates) (field' : String) {rules : List String}
    {seed : String} {a : Aggregate}
    (h : aggregate templates setting field rules seed = .ok a)
    (hbound : setting' = setting ∨ ∀ raw ∈ rules, Rule.BoundInFigures raw) :
    ∃ b, aggregate templates' setting' field' rules seed = .ok b ∧ a.InStep b ∧
      ((∀ index o, LastWith Effects.exemplifies a.outcomes index o →
          setting' = setting ∨ o.rule ≠ Kind.dateFormat.name) →
        b.entry.value = a.entry.value) := by
  obtain ⟨e, s, s', hrun, hfinal⟩ := aggregate_eq_ok h
  obtain ⟨d, hrun', -, hvalue⟩ :=
    hrun.counterpart templates' field' (d := {}) hbound rfl
  have hempty : d.value = .empty ↔ e.value = .empty := by
    rw [hrun.value_eq_empty_iff, hrun'.value_eq_empty_iff]
  obtain ⟨entry, hfinal'⟩ := finalize_returns hempty hfinal
  obtain ⟨b, hb, rfl, houtcomes⟩ := aggregate_of_run hrun' hfinal'
  refine ⟨b, hb, ⟨?_, ?_, houtcomes⟩, ?_⟩
  · rw [required_of_aggregate hb, required_of_aggregate h]
  · rw [type_of_aggregate hb, type_of_aggregate h]
  · intro hsurroundings
    refine value_eq_of_finalize ?_ hfinal' hfinal
    rcases hrun.value_eq with ⟨index, o, hlast, -, -⟩ | ⟨-, hlacks, -⟩
    · exact hvalue index o hlast (hsurroundings index o hlast)
    · rw [hlacks, hempty.mpr hlacks]

/-! ## Descriptions in other surroundings -/

theorem Step.outcome_of_raw {raw : String} {e e' : Entry} {s s' : Stream} {o : Outcome}
    (h : Step templates setting field raw e s o e' s') : o = Rule.outcome raw o.dispatch := by
  cases h <;> rfl

theorem Run.outcome_of_mem {rules : List String} {e e' : Entry} {s s' : Stream}
    {outcomes : List Outcome} (h : Run templates setting field rules e s outcomes e' s')
    {o : Outcome} (ho : o ∈ outcomes) : ∃ raw ∈ rules, o = Rule.outcome raw o.dispatch := by
  induction h with
  | nil e s => cases ho
  | @cons raw raws e e₁ e₂ s s₁ s₂ o' outcomes step rest ih =>
    rcases List.mem_cons.mp ho with rfl | hlater
    · exact ⟨raw, List.mem_cons_self, step.outcome_of_raw⟩
    · obtain ⟨raw', hraw', hshape⟩ := ih hlater
      exact ⟨raw', List.mem_cons_of_mem _ hraw', hshape⟩

theorem described_of_aggregate {rules : List String} {seed : String} {a : Aggregate}
    (h : aggregate templates setting field rules seed = .ok a) :
    Described templates setting field a.outcomes a.entry.description := by
  obtain ⟨e, s, s', hrun, hfinal⟩ := aggregate_eq_ok h
  obtain ⟨fragments, hfragments, hdescription, -⟩ := hrun.frame
  rw [description_of_finalize hfinal, hdescription]
  exact hfragments

/-- The fragment of an outcome is the same in other surroundings where its template, the reading of
its bound and the name of its column are. -/
theorem Outcome.HasFragment.eq_of {o : Outcome} {fragment fragment' : String}
    (h : o.HasFragment templates setting field fragment)
    (h' : o.HasFragment templates' setting' field' fragment')
    (htemplate : templates' o.rule = templates o.rule)
    (hbound : o.rule = Kind.after.name ∨ o.rule = Kind.before.name →
      setting' = setting ∨ InFigures o.parameters)
    (hcolumn : o.rule = Kind.existing.name → field' = field ∨ o.parameters.length ≠ 1) :
    fragment' = fragment := by
  obtain ⟨k, d, args, hname, hspec, hargs, rfl⟩ := h
  obtain ⟨k', d', args', hname', hspec', hargs', rfl⟩ := h'
  obtain rfl : k = k' := Option.some.inj (hname.symm.trans hname')
  obtain rfl : d = d' := Option.some.inj (hspec.symm.trans hspec')
  have hrule := Kind.name_of_ofName? hname
  have hsame : d.arguments (k.input setting' field' o.parameters none) =
      d.arguments (k.input setting field o.parameters none) := by
    refine Describing.arguments_eq ?_ ?_
    · rintro rfl
      refine hbound ?_
      rw [← hrule]
      exact (Kind.spec_bound.mp hspec).imp (congrArg Kind.name) (congrArg Kind.name)
    · rintro rfl
      refine hcolumn ?_
      rw [← hrule, Kind.spec_tableAndColumn.mp hspec]
  have hargs₀ := hargs none
  have hargs₀' := hargs' none
  rw [hsame, hargs₀] at hargs₀'
  cases hargs₀'
  rw [htemplate]

/-- The outcomes that report a description, in order. -/
def Aggregate.describing (a : Aggregate) : List Outcome := a.outcomes.filter (·.effects.describes)

/-- Two traced fields have one fragment for each outcome of the first that reports a description,
and the fragments of an outcome are the same where the property holds of it. -/
structure Aggregate.SharesFragments (P : Outcome → Prop) (a b : Aggregate) : Prop where
  length : a.entry.description.length = a.describing.length
  length_other : b.entry.description.length = a.describing.length
  fragment : ∀ (index : Nat) (o : Outcome), a.describing[index]? = some o → P o →
    b.entry.description[index]? = a.entry.description[index]?

theorem sharesFragments_of_described {a b : Aggregate} {P : Outcome → Prop}
    (ha : Described templates setting field a.outcomes a.entry.description)
    (hb : Described templates' setting' field' b.outcomes b.entry.description)
    (hinStep : a.InStep b)
    (hsame : ∀ o ∈ a.outcomes, P o → ∀ {fragment fragment'},
      o.HasFragment templates setting field fragment →
        o.HasFragment templates' setting' field' fragment' → fragment' = fragment) :
    a.SharesFragments P b := by
  rw [Described, hinStep.outcomes] at hb
  have hlength := ha.length_eq
  have hlength' := hb.length_eq
  refine ⟨hlength.symm, hlength'.symm, ?_⟩
  intro index o hindex hP
  obtain ⟨hlt, rfl⟩ := List.getElem?_eq_some_iff.mp hindex
  have hlt₁ : index < a.entry.description.length := hlength ▸ hlt
  have hlt₂ : index < b.entry.description.length := hlength' ▸ hlt
  have hmem := (List.mem_filter.mp (List.getElem_mem hlt)).1
  rw [List.getElem?_eq_getElem hlt₁, List.getElem?_eq_getElem hlt₂]
  exact congrArg some (hsame _ hmem hP (ha.get hlt hlt₁) (hb.get hlt hlt₂))

/-- Where all outcomes share their fragments, the descriptions are the same. -/
theorem Aggregate.SharesFragments.description_eq {a b : Aggregate}
    (h : a.SharesFragments (fun _ => True) b) : b.entry.description = a.entry.description := by
  refine List.ext_getElem? fun index => ?_
  rcases Nat.lt_or_ge index a.describing.length with hlt | hge
  · exact h.fragment index _ (List.getElem?_eq_getElem hlt) trivial
  · rw [List.getElem?_eq_none (h.length_other ▸ hge), List.getElem?_eq_none (h.length ▸ hge)]

end FieldGuide
