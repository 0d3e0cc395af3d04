import FieldGuide.Proofs.Runs
set_option autoImplicit false

/-!
# What the trace explains

The entry of a field is determined by the outcomes of its rules: the last outcome that set the type
gives the type, the last one that chose an example gives the value, and the description has one
fragment for every outcome that reports one.
-/

namespace FieldGuide

variable {templates : Templates} {setting : Setting} {field : String}

/-! ## The last outcome with an effect -/

/-- No outcome has the effect. -/
def NoneWith (effect : Effects → Bool) (outcomes : List Outcome) : Prop :=
  ∀ o ∈ outcomes, effect o.effects = false

/-- The outcome at an index is the last one with the effect. -/
def LastWith (effect : Effects → Bool) (outcomes : List Outcome) (index : Nat) (o : Outcome) :
    Prop :=
  outcomes[index]? = some o ∧ effect o.effects = true ∧
    NoneWith effect (outcomes.drop (index + 1))

theorem lastWith_append {effect : Effects → Bool} {before after : List Outcome} {o : Outcome}
    (heffect : effect o.effects = true) (hafter : NoneWith effect after) :
    LastWith effect (before ++ o :: after) before.length o := by
  refine ⟨by simp, heffect, ?_⟩
  have hdrop : (before ++ o :: after).drop (before.length + 1) = after := by simp
  rwa [hdrop]

theorem LastWith.unique {effect : Effects → Bool} {outcomes : List Outcome} {i j : Nat}
    {o p : Outcome} (h : LastWith effect outcomes i o) (h' : LastWith effect outcomes j p) :
    o = p := by
  have hlater {i j : Nat} {o p : Outcome} (h : LastWith effect outcomes i o)
      (h' : LastWith effect outcomes j p) : ¬ i < j := by
    intro hlt
    have hmem : p ∈ outcomes.drop (i + 1) := by
      refine List.mem_of_getElem? (i := j - (i + 1)) ?_
      rw [List.getElem?_drop, Nat.add_sub_cancel' hlt]
      exact h'.1
    have hnot := h.2.2 p hmem
    rw [h'.2.1] at hnot
    cases hnot
  have hij : i = j := Nat.le_antisymm (Nat.le_of_not_lt (hlater h' h)) (Nat.le_of_not_lt (hlater h h'))
  exact Option.some.inj (h.1.symm.trans (hij ▸ h'.1))

/-- A run has no outcome with an effect, or it can be cut at the last one. -/
theorem Run.last (effect : Effects → Bool) {rules : List String} {e e' : Entry} {s s' : Stream}
    {outcomes : List Outcome} (h : Run templates setting field rules e s outcomes e' s') :
    NoneWith effect outcomes ∨
      ∃ xs raw ys before o after e₁ s₁ e₂ s₂, rules = xs ++ raw :: ys ∧
        outcomes = before ++ o :: after ∧ Run templates setting field xs e s before e₁ s₁ ∧
          Step templates setting field raw e₁ s₁ o e₂ s₂ ∧
            Run templates setting field ys e₂ s₂ after e' s' ∧ effect o.effects = true ∧
              NoneWith effect after := by
  induction h with
  | nil e s => exact .inl (by simp [NoneWith])
  | @cons raw raws e e₁ e₂ s s₁ s₂ o outcomes step rest ih =>
    rcases ih with hnone | ⟨xs, raw', ys, before, o', after, e₃, s₃, e₄, s₄, rfl, rfl, hx, hrest⟩
    · cases heffect : effect o.effects with
      | false => exact .inl (List.forall_mem_cons.mpr ⟨heffect, hnone⟩)
      | true =>
        exact .inr ⟨[], raw, raws, [], o, outcomes, e, s, e₁, s₁, rfl, rfl, .nil e s, step, rest,
          heffect, hnone⟩
    · exact .inr ⟨raw :: xs, raw', ys, o :: before, o', after, e₃, s₃, e₄, s₄, rfl, rfl,
        .cons step hx, hrest⟩

/-! ## What a run leaves and what it sets -/

namespace Run

variable {rules : List String} {e e' : Entry} {s s' : Stream} {outcomes : List Outcome}

theorem raw_eq (h : Run templates setting field rules e s outcomes e' s') :
    outcomes.map (·.raw) = rules := by
  induction h with
  | nil e s => rfl
  | cons step rest ih => rw [List.map_cons, ih, step.raw_eq]

theorem required_eq (h : Run templates setting field rules e s outcomes e' s') :
    e'.required = (e.required || outcomes.any (·.effects.required)) := by
  induction h with
  | nil e s => exact (Bool.or_false _).symm
  | cons step rest ih => rw [ih, step.required_eq, List.any_cons, Bool.or_assoc]

theorem type_of_noneWith (h : Run templates setting field rules e s outcomes e' s')
    (hnone : NoneWith Effects.setsType outcomes) : e'.type = e.type := by
  induction h with
  | nil e s => rfl
  | cons step rest ih =>
    obtain ⟨hkeeps, hrest⟩ := List.forall_mem_cons.mp hnone
    rw [ih hrest, step.type_of_not_sets hkeeps]

theorem value_of_noneWith (h : Run templates setting field rules e s outcomes e' s')
    (hnone : NoneWith Effects.exemplifies outcomes) : e'.value = e.value ∧ s' = s := by
  induction h with
  | nil e s => exact ⟨rfl, rfl⟩
  | cons step rest ih =>
    obtain ⟨hkeeps, hrest⟩ := List.forall_mem_cons.mp hnone
    obtain ⟨hvalue, hstream⟩ := step.value_of_not_exemplifies hkeeps
    obtain ⟨hvalue', hstream'⟩ := ih hrest
    exact ⟨hvalue'.trans hvalue, hstream'.trans hstream⟩

/-- Behind a type that is set nothing is set by default. -/
theorem noneWith_defaultsType (h : Run templates setting field rules e s outcomes e' s')
    (htype : e.type ≠ none) : NoneWith Effects.defaultsType outcomes := by
  induction h with
  | nil e s => simp [NoneWith]
  | @cons raw raws e e₁ e₂ s s₁ s₂ o outcomes step rest ih =>
    refine List.forall_mem_cons.mpr ⟨?_, ih ?_⟩
    · rw [Bool.eq_false_iff]
      intro hdefaults
      exact htype (step.type_of_defaults hdefaults)
    · cases hsets : o.effects.setsType with
      | false => rwa [step.type_of_not_sets hsets]
      | true =>
        obtain ⟨type, -, htype'⟩ := step.type_of_sets hsets
        rw [htype']
        simp

theorem pairwise_defaultsType (h : Run templates setting field rules e s outcomes e' s') :
    outcomes.Pairwise fun o p => o.effects.setsType = true → p.effects.defaultsType = false := by
  induction h with
  | nil e s => exact .nil
  | cons step rest ih =>
    refine .cons ?_ ih
    intro p hp hsets
    obtain ⟨type, -, htype⟩ := step.type_of_sets hsets
    exact rest.noneWith_defaultsType (by simp [htype]) p hp

end Run

/-! ## The value -/

variable (templates setting field)

/-- The rule of an outcome, at an index of a list of rules, chooses the value with the type and from
the place in the stream that the rules before it leave. -/
def Outcome.Chooses (rules : List String) (seed : String) (index : Nat) (o : Outcome)
    (value : Example) : Prop :=
  ∃ e outcomes events s s' k x,
    (traceRules templates setting field (rules.take index) {}).run (Stream.ofText seed) =
        .ok ((e, outcomes, events), s) ∧
      Kind.ofName? o.rule = some k ∧ k.spec.exemplifying = some x ∧
        (x.choose (k.input setting field o.parameters (k.spec.typing.apply e.type))).run.run s =
          .ok (.ok (some value), s')

variable {templates setting field}

theorem Step.value_of_exemplifies {raw : String} {e e' : Entry} {s s' : Stream} {o : Outcome}
    (h : Step templates setting field raw e s o e' s') (hexample : o.effects.exemplifies = true) :
    ∃ k x, Kind.ofName? o.rule = some k ∧ k.spec.exemplifying = some x ∧
      (x.choose (k.input setting field o.parameters (k.spec.typing.apply e.type))).run.run s =
        .ok (.ok (some e'.value), s') := by
  cases h with
  | unknown hname => cases hexample
  | @applied k a s' hname happly =>
    have htype : a.entry.type = k.spec.typing.apply e.type := by
      obtain ⟨found, chosen, -, -, rfl⟩ := Kind.apply_eq_ok.mp happly
      rfl
    have hno {P : Prop} (hkeeps : a.effects.exemplifies = false) : P := by
      rw [Outcome.effects, Rule.outcome, Dispatch.effects, hkeeps] at hexample
      cases hexample
    have hreport := (Kind.effects_of_apply happly).2
    generalize a.exemplifying.error? = error? at hreport
    rw [htype] at hreport
    cases hreport with
    | undeclared hspec heffect hkept hstream => exact hno heffect
    | dropped hspec hchosen heffect hkept hstream => exact hno heffect
    | skipped hbound hinteger hnumeric heffect hkept hstream => exact hno heffect
    | @done x value hspec hchosen heffect hvalue =>
      rw [hvalue]
      exact ⟨k, x, hname, hspec, hchosen⟩

/-- After a run the type is that of the last outcome that set it. -/
theorem Run.type_eq {rules : List String} {e e' : Entry} {s s' : Stream} {outcomes : List Outcome}
    (h : Run templates setting field rules e s outcomes e' s') :
    (∃ index o type, LastWith Effects.setsType outcomes index o ∧ o.tableType? = some type ∧
        e'.type = some type) ∨
      NoneWith Effects.setsType outcomes ∧ e'.type = e.type := by
  rcases h.last Effects.setsType with hnone |
    ⟨xs, raw, ys, before, o, after, e₁, s₁, e₂, s₂, rfl, rfl, -, step, hy, hsets, hafter⟩
  · exact .inr ⟨hnone, h.type_of_noneWith hnone⟩
  · obtain ⟨type, htable, htype⟩ := step.type_of_sets hsets
    refine .inl ⟨before.length, o, type, lastWith_append hsets hafter, htable, ?_⟩
    rw [hy.type_of_noneWith hafter, htype]

/-- After a run from the start of a stream the value is that of the last outcome that chose one. -/
theorem Run.value_eq {rules : List String} {seed : String} {e : Entry} {s : Stream}
    {outcomes : List Outcome}
    (h : Run templates setting field rules {} (Stream.ofText seed) outcomes e s) :
    (∃ index o, LastWith Effects.exemplifies outcomes index o ∧
        o.Chooses templates setting field rules seed index e.value ∧ e.value ≠ .empty) ∨
      NoneWith Effects.exemplifies outcomes ∧ e.value = .empty ∧ s = Stream.ofText seed := by
  rcases h.last Effects.exemplifies with hnone |
    ⟨xs, raw, ys, before, o, after, e₁, s₁, e₂, s₂, rfl, rfl, hx, step, hy, hexample, hafter⟩
  · exact .inr ⟨hnone, h.value_of_noneWith hnone⟩
  · obtain ⟨k, x, hname, hspec, hchosen⟩ := step.value_of_exemplifies hexample
    obtain ⟨events, htrace⟩ := traceRules_of_run hx
    rw [(hy.value_of_noneWith hafter).1]
    refine .inl ⟨before.length, o, lastWith_append hexample hafter, ?_,
      Kind.choose_ne_empty hspec hchosen⟩
    refine ⟨e₁, before, events, s₁, s₂, k, x, ?_, hname, hspec, hchosen⟩
    rwa [hx.length_eq, List.take_left]

/-! ## The metadata of a field -/

/-- How the outcomes of the rules of a field determine its entry. -/
structure Aggregate.Explained (templates : Templates) (setting : Setting) (field : String)
    (rules : List String) (seed : String) (a : Aggregate) : Prop where
  raw : a.outcomes.map (·.raw) = rules
  required : a.entry.required = a.outcomes.any (·.effects.required)
  description : Described templates setting field a.outcomes a.entry.description
  type :
    (∃ index o type, LastWith Effects.setsType a.outcomes index o ∧ o.tableType? = some type ∧
        a.entry.type = some type) ∨
      NoneWith Effects.setsType a.outcomes ∧ a.entry.type = some .string
  defaultsType : a.outcomes.Pairwise fun o p =>
    o.effects.setsType = true → p.effects.defaultsType = false
  value :
    (∃ index o, LastWith Effects.exemplifies a.outcomes index o ∧
        o.Chooses templates setting field rules seed index a.entry.value) ∨
      NoneWith Effects.exemplifies a.outcomes ∧
        (∃ w s', Sampler.word.run (Stream.ofText seed) = .ok (w, s') ∧ a.entry.value = .text w) ∧
          ∃ e, aggregateEntry templates setting field [] seed = .ok e ∧ a.entry.value = e.value
  value_ne : a.entry.value ≠ .empty

/-- The field without rules gets the first word of its stream. -/
theorem aggregateEntry_nil {seed w : String} {s' : Stream}
    (h : Sampler.word.run (Stream.ofText seed) = .ok (w, s')) :
    aggregateEntry templates setting field [] seed = .ok (Entry.completed {} (.text w)) := by
  refine Sampler.onSeed_eq_ok.mpr ⟨s', Sampler.bind_eq_ok.mpr ⟨{}, _, rfl, ?_⟩⟩
  exact finalize_eq_ok.mpr (.inl ⟨rfl, w, h, rfl⟩)

/-- Tracing the rules of a field does not change what is documented of it, and the trace explains
it. -/
theorem aggregate_explained (templates : Templates) (setting : Setting) (field : String)
    (rules : List String) (seed : String) :
    aggregateEntry templates setting field rules seed =
        (aggregate templates setting field rules seed).map (·.entry) ∧
      ∀ a, aggregate templates setting field rules seed = .ok a →
        a.Explained templates setting field rules seed := by
  refine ⟨aggregateEntry_eq rules seed, ?_⟩
  intro a h
  obtain ⟨e, s, s', hrun, hfinal⟩ := aggregate_eq_ok h
  obtain ⟨fragments, hfragments, hdescription, -⟩ := hrun.frame
  constructor
  case raw => exact hrun.raw_eq
  case required =>
    rw [required_of_finalize hfinal, hrun.required_eq]
    rfl
  case description =>
    rw [description_of_finalize hfinal, hdescription]
    exact hfragments
  case type =>
    rw [type_of_finalize hfinal]
    rcases hrun.type_eq with ⟨index, o, type, hlast, htable, htype⟩ | ⟨hnone, htype⟩
    · exact .inl ⟨index, o, type, hlast, htable, by rw [htype]; rfl⟩
    · exact .inr ⟨hnone, by rw [htype]; rfl⟩
  case defaultsType => exact hrun.pairwise_defaultsType
  case value =>
    rcases hrun.value_eq with ⟨index, o, hlast, hchooses, hne⟩ | ⟨hnone, hempty, rfl⟩
    · rw [value_of_finalize hfinal hne]
      exact .inl ⟨index, o, hlast, hchooses⟩
    · rcases finalize_eq_ok.mp hfinal with ⟨-, w, hword, hentry⟩ | ⟨hne, -⟩
      · rw [hentry]
        exact .inr ⟨hnone, ⟨w, s', hword, rfl⟩, _, aggregateEntry_nil hword, rfl⟩
      · exact absurd hempty hne
  case value_ne =>
    rcases finalize_eq_ok.mp hfinal with ⟨-, w, -, hentry⟩ | ⟨hne, -, hentry⟩
    · rw [hentry]
      simp [Entry.completed]
    · rw [hentry]
      exact hne

/-- Where one rule loses both of its effects, another one sets the type and the value, and the last
one is passed over. -/
theorem aggregate_explained_accepted :
    ∃ a, aggregate (fun _ => ":min") .fixed "f" ["required", "between:1", "accepted", "min:3"] "s" =
        .ok a ∧
      a.Explained (fun _ => ":min") .fixed "f" ["required", "between:1", "accepted", "min:3"] "s" :=
  ⟨_, rfl, (aggregate_explained _ _ _ _ _).2 _ rfl⟩

end FieldGuide
