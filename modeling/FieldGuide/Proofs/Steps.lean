import Mathlib.Data.List.Forall2
import FieldGuide.Trace
import FieldGuide.Proofs.Accounts
set_option autoImplicit false

/-!
# One rule of a field

`Step` is the traced application of one rule as a relation: an entry and a stream become others, and
the rule has an outcome.  What a step does to the entry and the stream can be told from the effects
that its outcome reports.
-/

namespace FieldGuide

/-- The effects of a dispatch. -/
def Dispatch.effects : Dispatch → Effects
  | unknown => {}
  | applied effects _ => effects

/-- The effects of the rule of an outcome. -/
def Outcome.effects (o : Outcome) : Effects := o.dispatch.effects

/-- The outcome of a rule. -/
def Rule.outcome (raw : String) (dispatch : Dispatch) : Outcome :=
  ⟨raw, (canonical raw).name, (canonical raw).parameters, dispatch⟩

theorem Kind.name_of_ofName? {name : String} {k : Kind} (h : ofName? name = some k) :
    k.name = name := by
  have hfound := List.find?_some h
  simpa using hfound

theorem Kind.ofName?_name (k : Kind) : ofName? k.name = some k := by
  cases k <;> rfl

variable (templates : Templates) (setting : Setting) (field : String)

/-! ## Steps -/

/-- One rule takes an entry and a stream to others, with an outcome. -/
inductive Step (raw : String) (e : Entry) (s : Stream) : Outcome → Entry → Stream → Prop where
  /-- no kind of rules has the name -/
  | unknown (hname : Kind.ofName? (Rule.canonical raw).name = none) :
      Step raw e s (Rule.outcome raw .unknown) e s
  | applied {k : Kind} {a : Application} {s' : Stream}
      (hname : Kind.ofName? (Rule.canonical raw).name = some k)
      (happly : (k.apply templates setting field (Rule.canonical raw).parameters e).run s =
        .ok (a, s')) :
      Step raw e s (Rule.outcome raw (.applied a.effects a.dropped)) a.entry s'

variable {templates setting field}

theorem step_of_traceRule {raw : String} {e e' : Entry} {s s' : Stream} {o : Outcome}
    {events : List Event}
    (h : (traceRule templates setting field raw e).run s = .ok ((e', o, events), s')) :
    Step templates setting field raw e s o e' s' := by
  obtain ⟨result, s₁, hrule, hrest⟩ := Sampler.bind_eq_ok.mp h
  unfold applyRule at hrule
  dsimp only at hrule
  split at hrule
  · rename_i hname
    obtain ⟨rfl, rfl⟩ := Sampler.pure_eq_ok.mp hrule
    obtain ⟨heq, rfl⟩ := Sampler.pure_eq_ok.mp hrest
    cases heq
    exact .unknown hname
  · rename_i k hname
    obtain ⟨a, happly, rfl⟩ := Sampler.bind_pure_eq_ok.mp hrule
    obtain ⟨heq, rfl⟩ := Sampler.pure_eq_ok.mp hrest
    cases heq
    exact .applied hname happly

theorem traceRule_of_step {raw : String} {e e' : Entry} {s s' : Stream} {o : Outcome}
    (h : Step templates setting field raw e s o e' s') :
    ∃ events, (traceRule templates setting field raw e).run s = .ok ((e', o, events), s') := by
  cases h with
  | unknown hname =>
    refine ⟨_, Sampler.bind_eq_ok.mpr ⟨none, s, ?_, Sampler.pure_eq_ok.mpr ⟨rfl, rfl⟩⟩⟩
    rw [applyRule, hname]
    rfl
  | applied hname happly =>
    refine ⟨_, Sampler.bind_eq_ok.mpr ⟨some _, s', ?_, Sampler.pure_eq_ok.mpr ⟨rfl, rfl⟩⟩⟩
    rw [applyRule, hname]
    exact Sampler.bind_pure_eq_ok.mpr ⟨_, happly, rfl⟩

/-- Tracing a rule is interrupted where applying it is. -/
theorem traceRule_eq_error {raw : String} {e : Entry} {s : Stream} {cause : Interruption} :
    (traceRule templates setting field raw e).run s = .error cause ↔
      ∃ k, Kind.ofName? (Rule.canonical raw).name = some k ∧
        (k.apply templates setting field (Rule.canonical raw).parameters e).run s =
          .error cause := by
  have hrule : (traceRule templates setting field raw e).run s = .error cause ↔
      (applyRule templates setting field raw e).run s = .error cause := by
    rw [traceRule, Sampler.bind_eq_error]
    refine or_iff_left ?_
    rintro ⟨_ | a, s₁, -, hpure⟩
    · exact Sampler.pure_ne_error hpure
    · exact Sampler.pure_ne_error hpure
  rw [hrule, applyRule]
  cases Kind.ofName? (Rule.canonical raw).name with
  | none => exact iff_of_false Sampler.pure_ne_error (by simp)
  | some k =>
    dsimp only
    rw [Sampler.bind_pure_eq_error]
    simp

/-! ## Descriptions

Nothing reads the description of an entry: every rule puts its fragment, if it has one, behind
whatever is there.
-/

variable (templates setting field)

/-- The fragment of the rule of an outcome: its template, filled with the arguments that come of
its parameters. -/
def Outcome.HasFragment (o : Outcome) (fragment : String) : Prop :=
  ∃ k d args, Kind.ofName? o.rule = some k ∧ k.spec.describing = some d ∧
    (∀ type, (d.arguments (k.input setting field o.parameters type)).run = .ok (.ok args)) ∧
      fragment = Template.fill (templates o.rule) args

/-- The fragments are those of the outcomes that report a description, one for each, in order. -/
def Described (outcomes : List Outcome) (fragments : List String) : Prop :=
  List.Forall₂ (Outcome.HasFragment templates setting field)
    (outcomes.filter (·.effects.describes)) fragments

variable {templates setting field}

theorem Described.append {xs ys : List Outcome} {us vs : List String}
    (hx : Described templates setting field xs us) (hy : Described templates setting field ys vs) :
    Described templates setting field (xs ++ ys) (us ++ vs) := by
  unfold Described at *
  rw [List.filter_append]
  exact List.rel_append hx hy

theorem described_singleton {o : Outcome} {fragments : List String} :
    Described templates setting field [o] fragments ↔
      o.effects.describes = true ∧
          (∃ fragment, fragments = [fragment] ∧
            o.HasFragment templates setting field fragment) ∨
        o.effects.describes = false ∧ fragments = [] := by
  unfold Described
  cases hdescribes : o.effects.describes with
  | false => simp [hdescribes]
  | true => simp [hdescribes, List.forall₂_cons_left_iff, and_comm]

/-- The arguments of a description do not depend on the type of the field. -/
theorem Describing.arguments_input (d : Describing) (k : Kind) (parameters : List String)
    (type type' : Option FieldType) :
    d.arguments (k.input setting field parameters type) =
      d.arguments (k.input setting field parameters type') := by
  cases d <;> rfl

theorem Kind.apply_of_description {k : Kind} {parameters : List String} {e : Entry} {s s' : Stream}
    {a : Application}
    (h : (k.apply templates setting field parameters e).run s = .ok (a, s')) :
    ∃ fragments, a.entry.description = e.description ++ fragments ∧
      ∀ text, ∃ a', (k.apply templates setting field parameters
          { e with description := text }).run s = .ok (a', s') ∧
        a'.entry = { a.entry with description := text ++ fragments } ∧ a'.effects = a.effects ∧
          a'.dropped = a.dropped := by
  obtain ⟨found, chosen, hfound, hrun, rfl⟩ := Kind.apply_eq_ok.mp h
  refine ⟨found.arguments.fragments (templates k.name), rfl, ?_⟩
  intro text
  exact ⟨_, Kind.apply_eq_ok.mpr ⟨found, chosen, hfound, hrun, rfl⟩, rfl, rfl, rfl⟩

theorem Step.frame {raw : String} {e e' : Entry} {s s' : Stream} {o : Outcome}
    (h : Step templates setting field raw e s o e' s') :
    ∃ fragments, Described templates setting field [o] fragments ∧
      e'.description = e.description ++ fragments ∧
        ∀ text, Step templates setting field raw { e with description := text } s o
          { e' with description := text ++ fragments } s' := by
  cases h with
  | unknown hname =>
    refine ⟨[], described_singleton.mpr (.inr ⟨rfl, rfl⟩), (List.append_nil _).symm, ?_⟩
    intro text
    rw [List.append_nil]
    exact .unknown hname
  | @applied k a s' hname happly =>
    obtain ⟨fragments, hgrown, hframe⟩ := Kind.apply_of_description happly
    have hdescription := (Kind.effects_of_apply happly).1
    generalize a.describing.error? = error? at hdescription
    have hnone (hkept : a.entry.description = e.description) : fragments = [] := by
      rw [hkept] at hgrown
      exact List.self_eq_append_right.mp hgrown
    refine ⟨fragments, ?_, hgrown, ?_⟩
    · cases hdescription with
      | undeclared hspec heffect hkept =>
        exact described_singleton.mpr (.inr ⟨heffect, hnone hkept⟩)
      | dropped hspec hargs heffect hkept =>
        exact described_singleton.mpr (.inr ⟨heffect, hnone hkept⟩)
      | @done d args hspec hargs heffect hadded =>
        rw [List.append_cancel_left (hgrown.symm.trans hadded)]
        refine described_singleton.mpr (.inl ⟨heffect, _, rfl, k, d, args, hname, hspec, ?_, ?_⟩)
        · intro type
          rw [Describing.arguments_input d k _ type a.entry.type]
          exact hargs
        · rw [Kind.name_of_ofName? hname]
          rfl
    · intro text
      obtain ⟨a', happly', hentry, heffects, hdropped⟩ := hframe text
      rw [← hentry, ← heffects, ← hdropped]
      exact .applied hname happly'

/-! ## What a step does -/

/-- The rule set the type of its field. -/
def Effects.setsType (e : Effects) : Bool := e.forcesType || e.defaultsType

/-- The type that the table of kinds has for a rule. -/
def Typing.type? : Typing → Option FieldType
  | keep => none
  | force type => some type
  | fallback type => some type

/-- The type that the table of kinds has for the rule of an outcome. -/
def Outcome.tableType? (o : Outcome) : Option FieldType :=
  (Kind.ofName? o.rule).bind fun k => k.spec.typing.type?

theorem Typing.apply_of_sets {t : Typing} {old : Option FieldType}
    (h : (t.isForce || (t.isFallback && old.isNone)) = true) :
    ∃ type, t.type? = some type ∧ t.apply old = some type := by
  cases t with
  | keep => simp [isForce, isFallback] at h
  | force type => exact ⟨type, rfl, rfl⟩
  | fallback type =>
    cases old with
    | none => exact ⟨type, rfl, rfl⟩
    | some old => simp [isForce, isFallback] at h

theorem Typing.apply_of_not_sets {t : Typing} {old : Option FieldType}
    (h : (t.isForce || (t.isFallback && old.isNone)) = false) : t.apply old = old := by
  cases t with
  | keep => rfl
  | force type => simp [isForce] at h
  | fallback type =>
    cases old with
    | none => simp [isFallback] at h
    | some old => rfl

namespace Step

variable {raw : String} {e e' : Entry} {s s' : Stream} {o : Outcome}

theorem raw_eq (h : Step templates setting field raw e s o e' s') : o.raw = raw := by
  cases h <;> rfl

theorem required_eq (h : Step templates setting field raw e s o e' s') :
    e'.required = (e.required || o.effects.required) := by
  cases h with
  | unknown hname => exact (Bool.or_false _).symm
  | applied hname happly =>
    obtain ⟨found, chosen, -, -, rfl⟩ := Kind.apply_eq_ok.mp happly
    rfl

theorem type_of_sets (h : Step templates setting field raw e s o e' s')
    (hsets : o.effects.setsType = true) :
    ∃ type, o.tableType? = some type ∧ e'.type = some type := by
  cases h with
  | unknown hname => cases hsets
  | applied hname happly =>
    obtain ⟨found, chosen, -, -, rfl⟩ := Kind.apply_eq_ok.mp happly
    obtain ⟨type, htable, htype⟩ := Typing.apply_of_sets hsets
    refine ⟨type, ?_, htype⟩
    rw [Outcome.tableType?, Rule.outcome, hname]
    exact htable

theorem type_of_not_sets (h : Step templates setting field raw e s o e' s')
    (hkeeps : o.effects.setsType = false) : e'.type = e.type := by
  cases h with
  | unknown hname => rfl
  | applied hname happly =>
    obtain ⟨found, chosen, -, -, rfl⟩ := Kind.apply_eq_ok.mp happly
    exact Typing.apply_of_not_sets hkeeps

/-- A type is set by default only where none has been set. -/
theorem type_of_defaults (h : Step templates setting field raw e s o e' s')
    (hdefaults : o.effects.defaultsType = true) : e.type = none := by
  cases h with
  | unknown hname => cases hdefaults
  | applied hname happly =>
    obtain ⟨found, chosen, -, -, rfl⟩ := Kind.apply_eq_ok.mp happly
    exact Option.isNone_iff_eq_none.mp ((Bool.and_eq_true _ _).mp hdefaults).2

/-- A rule without an example leaves the value and the stream alone. -/
theorem value_of_not_exemplifies (h : Step templates setting field raw e s o e' s')
    (hkeeps : o.effects.exemplifies = false) : e'.value = e.value ∧ s' = s := by
  cases h with
  | unknown hname => exact ⟨rfl, rfl⟩
  | @applied k a s' hname happly =>
    have hexample := (Kind.effects_of_apply happly).2
    generalize a.exemplifying.error? = error? at hexample
    cases hexample with
    | undeclared hspec heffect hkept hstream => exact ⟨hkept, hstream⟩
    | done hspec hchosen heffect hvalue =>
      rw [Outcome.effects, Rule.outcome, Dispatch.effects, heffect] at hkeeps
      cases hkeeps
    | dropped hspec hchosen heffect hkept hstream => exact ⟨hkept, hstream⟩
    | skipped hbound hinteger hnumeric heffect hkept hstream => exact ⟨hkept, hstream⟩

end Step

end FieldGuide
