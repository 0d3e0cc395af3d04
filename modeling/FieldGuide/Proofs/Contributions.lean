import FieldGuide.Proofs.Runs
set_option autoImplicit false

/-!
# What one rule contributes

The mark that a field is required and the description of a field are put together from what each
rule contributes to them, and the contribution of a rule is the same wherever the rule stands.  The
outcome of a rule depends on one thing more, the type that its field has by then, and on nothing
that has been drawn.
-/

namespace FieldGuide

/-! ## Marks, types and fragments -/

/-- The rule makes its field required. -/
def Rule.requires (raw : String) : Bool :=
  (Kind.ofName? (canonical raw).name).any (·.spec.required)

/-- The fragment that a rule adds to the description of its field, if it adds one. -/
def Rule.fragments (templates : Templates) (setting : Setting) (field raw : String) :
    List String :=
  match Kind.ofName? (canonical raw).name with
  | none => []
  | some k =>
    match readArguments (k.input setting field (canonical raw).parameters none)
        k.spec.describing with
    | .ok arguments => arguments.fragments (templates k.name)
    | .error _ => []

/-- The type of a field after a rule. -/
def Rule.typeAfter (old : Option FieldType) (raw : String) : Option FieldType :=
  match Kind.ofName? (canonical raw).name with
  | none => old
  | some k => k.spec.typing.apply old

variable {templates templates' : Templates} {setting : Setting} {field : String}

theorem readArguments_input (k : Kind) (parameters : List String) (type type' : Option FieldType)
    (describing : Option Describing) :
    readArguments (k.input setting field parameters type) describing =
      readArguments (k.input setting field parameters type') describing := by
  cases describing with
  | none => rfl
  | some d => rw [readArguments, readArguments, Describing.arguments_input]

namespace Step

variable {raw : String} {e e' : Entry} {s s' : Stream} {o : Outcome}

theorem required_eq_or (h : Step templates setting field raw e s o e' s') :
    e'.required = (e.required || Rule.requires raw) := by
  cases h with
  | unknown hname => simp [Rule.requires, hname]
  | applied hname happly =>
    obtain ⟨found, chosen, -, -, rfl⟩ := Kind.apply_eq_ok.mp happly
    simp [Rule.requires, hname, Kind.settle]

theorem type_eq (h : Step templates setting field raw e s o e' s') :
    e'.type = Rule.typeAfter e.type raw := by
  cases h with
  | unknown hname => simp [Rule.typeAfter, hname]
  | applied hname happly =>
    obtain ⟨found, chosen, -, -, rfl⟩ := Kind.apply_eq_ok.mp happly
    simp [Rule.typeAfter, hname, Kind.settle]

theorem description_eq (h : Step templates setting field raw e s o e' s') :
    e'.description = e.description ++ Rule.fragments templates setting field raw := by
  cases h with
  | unknown hname => simp [Rule.fragments, hname]
  | @applied k a s' hname happly =>
    obtain ⟨found, chosen, hfound, -, rfl⟩ := Kind.apply_eq_ok.mp happly
    have harguments := (Kind.findings_eq_ok.mp hfound).1
    rw [readArguments_input k _ _ none] at harguments
    simp [Rule.fragments, hname, harguments, Kind.settle]

end Step

namespace Run

variable {rules : List String} {e e' : Entry} {s s' : Stream} {outcomes : List Outcome}

theorem required_eq_any (h : Run templates setting field rules e s outcomes e' s') :
    e'.required = (e.required || rules.any Rule.requires) := by
  induction h with
  | nil e s => exact (Bool.or_false _).symm
  | cons step rest ih => rw [ih, step.required_eq_or, List.any_cons, Bool.or_assoc]

theorem type_eq_foldl (h : Run templates setting field rules e s outcomes e' s') :
    e'.type = rules.foldl Rule.typeAfter e.type := by
  induction h with
  | nil e s => rfl
  | cons step rest ih => rw [ih, step.type_eq, List.foldl_cons]

theorem description_eq (h : Run templates setting field rules e s outcomes e' s') :
    e'.description =
      e.description ++ rules.flatMap (Rule.fragments templates setting field) := by
  induction h with
  | nil e s => exact (List.append_nil _).symm
  | cons step rest ih => rw [ih, step.description_eq, List.flatMap_cons, List.append_assoc]

end Run

theorem required_of_aggregate {rules : List String} {seed : String} {a : Aggregate}
    (h : aggregate templates setting field rules seed = .ok a) :
    a.entry.required = rules.any Rule.requires := by
  obtain ⟨e, s, s', hrun, hfinal⟩ := aggregate_eq_ok h
  rw [required_of_finalize hfinal, hrun.required_eq_any]
  rfl

theorem type_of_aggregate {rules : List String} {seed : String} {a : Aggregate}
    (h : aggregate templates setting field rules seed = .ok a) :
    a.entry.type = some ((rules.foldl Rule.typeAfter none).getD .string) := by
  obtain ⟨e, s, s', hrun, hfinal⟩ := aggregate_eq_ok h
  rw [type_of_finalize hfinal, hrun.type_eq_foldl]

theorem description_of_aggregate {rules : List String} {seed : String} {a : Aggregate}
    (h : aggregate templates setting field rules seed = .ok a) :
    a.entry.description = rules.flatMap (Rule.fragments templates setting field) := by
  obtain ⟨e, s, s', hrun, hfinal⟩ := aggregate_eq_ok h
  rw [description_of_finalize hfinal, hrun.description_eq]
  rfl

/-! ## Outcomes -/

/-- What becomes of the example of a plan that is carried out. -/
def Plan.fate : Plan → Fate
  | skip => .absent
  | drop error => .dropped error
  | draw _ => .done

theorem Plan.fateOfChoice_of_run {plan : Plan} {s s' : Stream}
    {chosen : Except RuleError (Option Example)} (h : plan.run.run s = .ok (chosen, s')) :
    fateOfChoice chosen = plan.fate := by
  cases plan with
  | skip =>
    obtain ⟨rfl, -⟩ := run_skip_eq_ok.mp h
    rfl
  | drop error =>
    obtain ⟨rfl, -⟩ := run_drop_eq_ok.mp h
    rfl
  | draw sampler =>
    obtain ⟨value, -, rfl⟩ := run_draw_eq_ok.mp h
    rfl

/-- The same rule on two fields of one type: whatever the streams and the values are, the outcomes
are the same, and so are the types after it. -/
theorem Step.outcome_eq {raw : String} {e e' d d' : Entry} {s s' t t' : Stream} {o p : Outcome}
    (h : Step templates setting field raw e s o e' s')
    (h' : Step templates' setting field raw d t p d' t') (htype : e.type = d.type) :
    o = p ∧ e'.type = d'.type := by
  cases h with
  | unknown hname =>
    cases h' with
    | unknown _ => exact ⟨rfl, htype⟩
    | applied hname' _ =>
      rw [hname] at hname'
      cases hname'
  | @applied k a s' hname happly =>
    cases h' with
    | unknown hname' =>
      rw [hname] at hname'
      cases hname'
    | @applied k' a' t' hname' happly' =>
      obtain rfl : k = k' := Option.some.inj (hname.symm.trans hname')
      obtain ⟨found, chosen, hfound, hrun, rfl⟩ := Kind.apply_eq_ok.mp happly
      obtain ⟨found', chosen', hfound', hrun', rfl⟩ := Kind.apply_eq_ok.mp happly'
      have hsame : found = found' := by
        rw [htype] at hfound
        exact Except.ok.inj (hfound.symm.trans hfound')
      -- The two runs draw different values from one plan, and the plan fixes the fate.
      have hfate : fateOfChoice chosen = fateOfChoice chosen' := by
        rw [Plan.fateOfChoice_of_run hrun, Plan.fateOfChoice_of_run hrun', hsame]
      constructor
      · simp only [Kind.settle, Application.dropped, hsame, hfate, htype]
      · simp only [Kind.settle, htype]

theorem Run.outcomes_eq {rules : List String} {e e' d d' : Entry} {s s' t t' : Stream}
    {outcomes later : List Outcome} (h : Run templates setting field rules e s outcomes e' s')
    (h' : Run templates' setting field rules d t later d' t') (htype : e.type = d.type) :
    outcomes = later ∧ e'.type = d'.type := by
  induction h generalizing d t later with
  | nil e s =>
    cases h'
    exact ⟨rfl, htype⟩
  | cons step rest ih =>
    cases h' with
    | cons step' rest' =>
      obtain ⟨rfl, htype₁⟩ := step.outcome_eq step' htype
      obtain ⟨rfl, htype₂⟩ := ih rest' htype₁
      exact ⟨rfl, htype₂⟩

end FieldGuide
