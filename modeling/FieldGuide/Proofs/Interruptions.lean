import FieldGuide.Proofs.Runs
set_option autoImplicit false

/-!
# When nothing comes of a field

The rules of a field are carried out to the last one, whatever their parameters say, with one
exception: where a rule bounds a date and the reading of its bound breaks off, nothing comes of the
whole field.  Apart from that only a draw can fail to return, to which the rules come and which
refuses every word it looks at.
-/

namespace FieldGuide

/-- The rule bounds a date, and reading its bound breaks off. -/
def BreaksOff (setting : Setting) (raw : String) : Prop :=
  ((Rule.canonical raw).name = Kind.after.name ∨ (Rule.canonical raw).name = Kind.before.name) ∧
    ∃ bound, (Rule.canonical raw).parameters[0]? = some bound ∧ setting.BreaksOn bound

/-- The rules of a field, or its completion, come to a draw that refuses every word it looks at. -/
def RulesStall (templates : Templates) (setting : Setting) (field : String) (rules : List String)
    (seed : String) : Prop :=
  Sampler.Stalls (do finalize (← applyRules templates setting field rules {})) (Stream.ofText seed)

/-! ## One rule -/

variable {templates : Templates} {setting : Setting} {field : String}

/-- Tracing a rule is interrupted by the reading of its bound or by a draw. -/
theorem traceRule_error_cases {raw : String} {e : Entry} {s : Stream} {cause : Interruption}
    (h : (traceRule templates setting field raw e).run s = .error cause) :
    cause = .phrase ∧ BreaksOff setting raw ∨ cause = .exhausted := by
  obtain ⟨k, hname, happly⟩ := traceRule_eq_error.mp h
  rcases Kind.apply_eq_error.mp happly with hreading | ⟨found, hfound, hdrawing⟩
  · obtain ⟨hkind, rfl, bound, hbound, hbreaks⟩ := Kind.findings_eq_error.mp hreading
    rw [Input.parameter_eq_ok] at hbound
    refine .inl ⟨rfl, ?_, bound, hbound, hbreaks⟩
    rw [← Kind.name_of_ofName? hname]
    exact hkind.imp (congrArg Kind.name) (congrArg Kind.name)
  · exact .inr ((Kind.plan_proper (Kind.findings_eq_ok.mp hfound).2).steady.exhausted hdrawing)

theorem traceRule_of_breaksOff {raw : String} (h : BreaksOff setting raw) (e : Entry)
    (s : Stream) : (traceRule templates setting field raw e).run s = .error .phrase := by
  obtain ⟨hname, bound, hbound, hbreaks⟩ := h
  have hstops (k : Kind) (hkind : k = .after ∨ k = .before)
      (hk : (Rule.canonical raw).name = k.name) :
      (traceRule templates setting field raw e).run s = .error .phrase := by
    refine traceRule_eq_error.mpr ⟨k, hk ▸ k.ofName?_name, Kind.apply_eq_error.mpr (.inl ?_)⟩
    exact Kind.findings_eq_error.mpr
      ⟨hkind, rfl, bound, Input.parameter_eq_ok.mpr hbound, hbreaks⟩
  rcases hname with hafter | hbefore
  · exact hstops .after (.inl rfl) hafter
  · exact hstops .before (.inr rfl) hbefore

theorem Step.not_breaksOff {raw : String} {e e' : Entry} {s s' : Stream} {o : Outcome}
    (h : Step templates setting field raw e s o e' s') : ¬ BreaksOff setting raw := by
  intro hbreaks
  obtain ⟨events, htrace⟩ := traceRule_of_step h
  rw [traceRule_of_breaksOff hbreaks] at htrace
  cases htrace

/-! ## All rules -/

theorem Run.not_breaksOff {rules : List String} {e e' : Entry} {s s' : Stream}
    {outcomes : List Outcome} (h : Run templates setting field rules e s outcomes e' s') :
    ∀ raw ∈ rules, ¬ BreaksOff setting raw := by
  induction h with
  | nil e s => simp
  | cons step rest ih => exact List.forall_mem_cons.mpr ⟨step.not_breaksOff, ih⟩

/-- The reading of a rule is never exhausted, so that only its draw can be. -/
theorem Kind.proceeds_apply (k : Kind) (parameters : List String) (e : Entry) :
    (k.apply templates setting field parameters e).Proceeds := by
  rw [Kind.apply_eq]
  refine .bind (.lift ?_) fun {_ found _} hlift => ?_
  · intro hreading
    cases (Kind.findings_eq_error.mp hreading).2.1
  · have hfound := (Sampler.lift_eq_ok.mp hlift).1
    have hproper := Kind.plan_proper (Kind.findings_eq_ok.mp hfound).2
    exact hproper.steady.toProceeds.bind fun _ => .pure _

theorem proceeds_applyRule (raw : String) (e : Entry) :
    (applyRule templates setting field raw e).Proceeds := by
  unfold applyRule
  dsimp only
  split
  · exact .pure none
  · exact (Kind.proceeds_apply _ _ e).bind fun _ => .pure _

theorem proceeds_applyRules (rules : List String) (e : Entry) :
    (applyRules templates setting field rules e).Proceeds := by
  induction rules generalizing e with
  | nil => exact .pure e
  | cons raw raws ih =>
    refine (proceeds_applyRule raw e).bind fun {_ result _} _ => ?_
    cases result with
    | none => exact ih e
    | some a => exact ih a.entry

theorem proceeds_finalize (e : Entry) : (finalize e).Proceeds := by
  unfold finalize
  split
  · exact Sampler.steady_word.toProceeds.bind fun _ => .pure _
  · exact .pure _

/-- A field is exhausted just if its rules stall. -/
theorem aggregate_eq_exhausted_iff {rules : List String} {seed : String} :
    aggregate templates setting field rules seed = .error .exhausted ↔
      RulesStall templates setting field rules seed := by
  have hentry : aggregate templates setting field rules seed = .error .exhausted ↔
      aggregateEntry templates setting field rules seed = .error .exhausted := by
    rw [aggregateEntry_eq]
    cases aggregate templates setting field rules seed <;> simp [Except.map]
  have hstalls : Sampler.Proceeds (do
      finalize (← applyRules templates setting field rules {})) :=
    (proceeds_applyRules rules {}).bind fun {_ e _} _ => proceeds_finalize e
  rw [hentry, aggregateEntry, Sampler.onSeed_eq_error, hstalls.exhausted_iff]
  rfl

theorem aggregate_error_cases {rules : List String} {seed : String} {cause : Interruption}
    (h : aggregate templates setting field rules seed = .error cause) :
    cause = .phrase ∧ (∃ raw ∈ rules, BreaksOff setting raw) ∨
      cause = .exhausted ∧ RulesStall templates setting field rules seed := by
  have hcause : cause = .phrase ∧ (∃ raw ∈ rules, BreaksOff setting raw) ∨ cause = .exhausted := by
    rcases aggregate_eq_error.mp h with hrules | ⟨outcomes, e, s, hrun, hfinal⟩
    · obtain ⟨before, raw, after, outcomes, e, s, rfl, hrun, hbreak⟩ :=
        traceRules_eq_error.mp hrules
      exact (traceRule_error_cases hbreak).imp_left
        fun ⟨hphrase, hbreaks⟩ => ⟨hphrase, raw, by simp, hbreaks⟩
    · exact .inr (Sampler.steady_word.exhausted (finalize_eq_error.mp hfinal).2)
  refine hcause.imp_right ?_
  rintro rfl
  exact ⟨rfl, aggregate_eq_exhausted_iff.mp h⟩

/-- Whether the rules of a field come to an end shows on other fields as well: some of them, in any
order, under any name and with any seed, come to an end too. -/
theorem aggregate_of_subset {templates' : Templates} {field' : String} {rules fewer : List String}
    {seed : String} {a : Aggregate} (h : aggregate templates setting field rules seed = .ok a)
    (hfewer : fewer ⊆ rules) (other : String) :
    (∃ b, aggregate templates' setting field' fewer other = .ok b) ∨
      aggregate templates' setting field' fewer other = .error .exhausted ∧
        RulesStall templates' setting field' fewer other := by
  obtain ⟨e, s, s', hrun, -⟩ := aggregate_eq_ok h
  cases hother : aggregate templates' setting field' fewer other with
  | ok b => exact .inl ⟨b, rfl⟩
  | error cause =>
    rcases aggregate_error_cases hother with ⟨-, raw, hmem, hbreaks⟩ | ⟨rfl, hstalls⟩
    · exact absurd hbreaks (hrun.not_breaksOff raw (hfewer hmem))
    · exact .inr ⟨rfl, hstalls⟩

/-! ## Rules that are carried out -/

/-- A rule has been carried out: nothing was done for an unknown name, and else each of its effects
was had or is passed over, or the trace has the error that dropped it. -/
def CarriedOut (templates : Templates) (setting : Setting) (field raw : String) (o : Outcome) :
    Prop :=
  o = Rule.outcome raw .unknown ∧ Kind.ofName? o.rule = none ∨
    ∃ k e s a s', Kind.ofName? o.rule = some k ∧
      (k.apply templates setting field o.parameters e).run s = .ok (a, s') ∧
        o = Rule.outcome raw
            (.applied a.effects (a.describing.error?.toList ++ a.exemplifying.error?.toList)) ∧
          k.Describes templates (k.input setting field o.parameters a.entry.type) e a
              a.describing.error? ∧
            k.Exemplifies (k.input setting field o.parameters a.entry.type) e s a s'
              a.exemplifying.error?

theorem Step.carriedOut {raw : String} {e e' : Entry} {s s' : Stream} {o : Outcome}
    (h : Step templates setting field raw e s o e' s') :
    CarriedOut templates setting field raw o := by
  cases h with
  | unknown hname => exact .inl ⟨rfl, hname⟩
  | @applied k a s' hname happly =>
    obtain ⟨hdescribes, hexemplifies⟩ := Kind.effects_of_apply happly
    rw [a.dropped_eq]
    exact .inr ⟨k, e, s, a, s', hname, happly, rfl, hdescribes, hexemplifies⟩

theorem Run.carriedOut {rules : List String} {e e' : Entry} {s s' : Stream}
    {outcomes : List Outcome} (h : Run templates setting field rules e s outcomes e' s') :
    List.Forall₂ (CarriedOut templates setting field) rules outcomes := by
  induction h with
  | nil e s => exact .nil
  | cons step rest ih => exact .cons step.carriedOut ih

/-- Nothing comes of a field if one of its rules breaks off.  If none does, then every rule is
carried out on what the rules before it leave, whatever its parameters are, unless they come to a
draw that refuses every word it looks at. -/
theorem aggregate_ends (templates : Templates) (setting : Setting) (field : String)
    (rules : List String) (seed : String) :
    aggregateEntry templates setting field rules seed =
        (aggregate templates setting field rules seed).map (·.entry) ∧
      ((∃ raw ∈ rules, BreaksOff setting raw) →
        aggregate templates setting field rules seed = .error .phrase ∨
          aggregate templates setting field rules seed = .error .exhausted ∧
            RulesStall templates setting field rules seed) ∧
      ((∀ raw ∈ rules, ¬ BreaksOff setting raw) →
        (∃ a e s s', aggregate templates setting field rules seed = .ok a ∧
          Run templates setting field rules {} (Stream.ofText seed) a.outcomes e s ∧
            List.Forall₂ (CarriedOut templates setting field) rules a.outcomes ∧
              (finalize e).run s = .ok (a.entry, s')) ∨
          aggregate templates setting field rules seed = .error .exhausted ∧
            RulesStall templates setting field rules seed) := by
  refine ⟨aggregateEntry_eq rules seed, ?_, ?_⟩
  · rintro ⟨raw, hmem, hbreaks⟩
    cases h : aggregate templates setting field rules seed with
    | ok a =>
      obtain ⟨e, s, s', hrun, -⟩ := aggregate_eq_ok h
      exact absurd hbreaks (hrun.not_breaksOff raw hmem)
    | error cause =>
      rcases aggregate_error_cases h with ⟨rfl, -⟩ | ⟨rfl, hstalls⟩
      · exact .inl rfl
      · exact .inr ⟨rfl, hstalls⟩
  · intro hnone
    cases h : aggregate templates setting field rules seed with
    | ok a =>
      obtain ⟨e, s, s', hrun, hfinal⟩ := aggregate_eq_ok h
      exact .inl ⟨a, e, s, s', rfl, hrun, hrun.carriedOut, hfinal⟩
    | error cause =>
      rcases aggregate_error_cases h with ⟨-, raw, hmem, hbreaks⟩ | ⟨rfl, hstalls⟩
      · exact absurd hbreaks (hnone raw hmem)
      · exact .inr ⟨rfl, hstalls⟩

/-- A field whose bound is cut inside a letter; and one with an example of nine digits, whose second
rule loses both its description and its example, and whose third rule is none. -/
theorem aggregate_ends_cut_accepted :
    aggregate (fun _ => "") .fixed "f" ["accepted", "after:пятница"] "a" = .error .phrase ∧
      ∃ a e s s', aggregate (fun _ => "") .fixed "f" ["digits:9", "between:1", "bogus"] "a" = .ok a ∧
        a.entry =
            { type := some .numeric, value := .text "109979254", description := [""] } ∧
          a.outcomes.map (·.dispatch) =
              [.applied { forcesType := true, describes := true, exemplifies := true } [],
                .applied {} [.missingParameter "between" 1, .missingParameter "between" 1],
                .unknown] ∧
            Run (fun _ => "") .fixed "f" ["digits:9", "between:1", "bogus"] {} (.ofText "a")
                a.outcomes e s ∧
              List.Forall₂ (CarriedOut (fun _ => "") .fixed "f")
                  ["digits:9", "between:1", "bogus"] a.outcomes ∧
                (finalize e).run s = .ok (a.entry, s') := by
  constructor
  · have hphrase : aggregate (fun _ => "") .fixed "f" ["accepted", "after:пятница"] "a" =
        .error .phrase := rfl
    rcases (aggregate_ends (fun _ => "") .fixed "f" ["accepted", "after:пятница"] "a").2.1
      ⟨"after:пятница", by simp, .inl rfl, "пятница", rfl, rfl, rfl⟩ with h | ⟨hexhausted, -⟩
    · exact h
    · rw [hphrase] at hexhausted
      cases hexhausted
  · have hvalue : (aggregate (fun _ => "") .fixed "f" ["digits:9", "between:1", "bogus"]
        "a").toOption.map (fun a => (a.entry, a.outcomes.map (·.dispatch))) =
          some ({ type := some .numeric, value := .text "109979254", description := [""] },
            [.applied { forcesType := true, describes := true, exemplifies := true } [],
              .applied {} [.missingParameter "between" 1, .missingParameter "between" 1],
              .unknown]) := by
      decide +kernel
    have hnames : ∀ raw ∈ ["digits:9", "between:1", "bogus"], (Rule.canonical raw).name ≠ "after" ∧
        (Rule.canonical raw).name ≠ "before" := by
      decide
    rcases (aggregate_ends (fun _ => "") .fixed "f" ["digits:9", "between:1", "bogus"] "a").2.2
        (fun raw hmem hbreaks =>
          hbreaks.1.elim (hnames raw hmem).1 (hnames raw hmem).2) with
      ⟨a, e, s, s', ha, hrun, hcarried, hfinal⟩ | ⟨hexhausted, -⟩
    · rw [ha] at hvalue
      obtain ⟨hentry, hdispatches⟩ := Prod.mk.inj (Option.some.inj hvalue)
      exact ⟨a, e, s, s', ha, hentry, hdispatches, hrun, hcarried, hfinal⟩
    · rw [hexhausted] at hvalue
      cases hvalue

/-- Not every list of rules comes to an end: the reading of a date phrase cuts this name inside a
letter. -/
theorem not_forall_aggregate_returns :
    ¬ ∀ (templates : Templates) (setting : Setting) (field : String) (rules : List String)
      (seed : String), ∃ a, aggregate templates setting field rules seed = .ok a := by
  intro hreturns
  have hbreaks : aggregate (fun _ => "") .fixed "f" ["after:пятница"] "s" = .error .phrase := rfl
  obtain ⟨a, ha⟩ := hreturns (fun _ => "") .fixed "f" ["after:пятница"] "s"
  rw [hbreaks] at ha
  cases ha

end FieldGuide
