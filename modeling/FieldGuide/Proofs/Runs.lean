import FieldGuide.Aggregation
import FieldGuide.Proofs.Steps
set_option autoImplicit false

/-!
# Runs of rules

The traced pass over the rules of a field as a relation: `Run` puts steps in a row, each of which
goes on with the entry and the stream that the one before it left.
-/

namespace FieldGuide

variable (templates : Templates) (setting : Setting) (field : String)

/-! ## Rules in a row -/

/-- Some rules in order take an entry and a stream to others, with an outcome for every rule. -/
inductive Run : List String → Entry → Stream → List Outcome → Entry → Stream → Prop where
  | nil (e : Entry) (s : Stream) : Run [] e s [] e s
  | cons {raw : String} {raws : List String} {e e₁ e₂ : Entry} {s s₁ s₂ : Stream} {o : Outcome}
      {outcomes : List Outcome} (step : Step templates setting field raw e s o e₁ s₁)
      (rest : Run raws e₁ s₁ outcomes e₂ s₂) : Run (raw :: raws) e s (o :: outcomes) e₂ s₂

variable {templates setting field}

theorem run_of_traceRules {rules : List String} {e e' : Entry} {s s' : Stream}
    {outcomes : List Outcome} {events : List Event}
    (h : (traceRules templates setting field rules e).run s = .ok ((e', outcomes, events), s')) :
    Run templates setting field rules e s outcomes e' s' := by
  induction rules generalizing e s outcomes events with
  | nil =>
    obtain ⟨heq, rfl⟩ := Sampler.pure_eq_ok.mp h
    cases heq
    exact .nil _ _
  | cons raw raws ih =>
    obtain ⟨⟨e₁, o, events₁⟩, s₁, hrule, hrest⟩ := Sampler.bind_eq_ok.mp h
    obtain ⟨⟨e₂, outcomes₂, events₂⟩, hrules, heq⟩ := Sampler.bind_pure_eq_ok.mp hrest
    cases heq
    exact .cons (step_of_traceRule hrule) (ih hrules)

theorem traceRules_of_run {rules : List String} {e e' : Entry} {s s' : Stream}
    {outcomes : List Outcome} (h : Run templates setting field rules e s outcomes e' s') :
    ∃ events, (traceRules templates setting field rules e).run s =
      .ok ((e', outcomes, events), s') := by
  induction h with
  | nil e s => exact ⟨[], rfl⟩
  | cons step rest ih =>
    obtain ⟨events, hrule⟩ := traceRule_of_step step
    obtain ⟨later, hrules⟩ := ih
    refine ⟨events ++ later, Sampler.bind_eq_ok.mpr ⟨_, _, hrule, ?_⟩⟩
    exact Sampler.bind_pure_eq_ok.mpr ⟨_, hrules, rfl⟩

theorem Run.append {xs ys : List String} {e e₁ e₂ : Entry} {s s₁ s₂ : Stream}
    {outcomes later : List Outcome} (hx : Run templates setting field xs e s outcomes e₁ s₁)
    (hy : Run templates setting field ys e₁ s₁ later e₂ s₂) :
    Run templates setting field (xs ++ ys) e s (outcomes ++ later) e₂ s₂ := by
  induction hx with
  | nil e s => exact hy
  | cons step rest ih => exact .cons step (ih hy)

/-- A run can be cut anywhere. -/
theorem Run.cut {xs ys : List String} {e e₂ : Entry} {s s₂ : Stream} {all : List Outcome}
    (h : Run templates setting field (xs ++ ys) e s all e₂ s₂) :
    ∃ outcomes e₁ s₁ later, Run templates setting field xs e s outcomes e₁ s₁ ∧
      Run templates setting field ys e₁ s₁ later e₂ s₂ ∧ all = outcomes ++ later := by
  induction xs generalizing e s all with
  | nil => exact ⟨[], e, s, all, .nil e s, h, rfl⟩
  | cons raw raws ih =>
    cases h with
    | cons step rest =>
      obtain ⟨outcomes, e₁, s₁, later, hx, hy, rfl⟩ := ih rest
      exact ⟨_ :: outcomes, e₁, s₁, later, .cons step hx, hy, rfl⟩

theorem Run.length_eq {rules : List String} {e e' : Entry} {s s' : Stream}
    {outcomes : List Outcome} (h : Run templates setting field rules e s outcomes e' s') :
    outcomes.length = rules.length := by
  induction h with
  | nil e s => rfl
  | cons step rest ih => simp [ih]

/-- A run is interrupted by one of its rules, after a run of the rules before it. -/
theorem traceRules_eq_error {rules : List String} {e : Entry} {s : Stream}
    {cause : Interruption} :
    (traceRules templates setting field rules e).run s = .error cause ↔
      ∃ before raw after outcomes e₁ s₁, rules = before ++ raw :: after ∧
        Run templates setting field before e s outcomes e₁ s₁ ∧
          (traceRule templates setting field raw e₁).run s₁ = .error cause := by
  constructor
  · intro h
    induction rules generalizing e s with
    | nil => exact absurd h Sampler.pure_ne_error
    | cons raw raws ih =>
      rcases Sampler.bind_eq_error.mp h with hrule | ⟨⟨e₁, o, events⟩, s₁, hrule, hrest⟩
      · exact ⟨[], raw, raws, [], e, s, rfl, .nil e s, hrule⟩
      · obtain ⟨before, raw', after, outcomes, e₂, s₂, rfl, hrun, hbreak⟩ :=
          ih (Sampler.bind_pure_eq_error.mp hrest)
        exact ⟨raw :: before, raw', after, o :: outcomes, e₂, s₂, rfl,
          .cons (step_of_traceRule hrule) hrun, hbreak⟩
  · rintro ⟨before, raw, after, outcomes, e₁, s₁, rfl, hrun, hbreak⟩
    induction hrun with
    | nil e s => exact Sampler.bind_eq_error.mpr (.inl hbreak)
    | cons step rest ih =>
      obtain ⟨events, hrule⟩ := traceRule_of_step step
      exact Sampler.bind_eq_error.mpr
        (.inr ⟨_, _, hrule, Sampler.bind_pure_eq_error.mpr (ih hbreak)⟩)

theorem Run.frame {rules : List String} {e e' : Entry} {s s' : Stream} {outcomes : List Outcome}
    (h : Run templates setting field rules e s outcomes e' s') :
    ∃ fragments, Described templates setting field outcomes fragments ∧
      e'.description = e.description ++ fragments ∧
        ∀ text, Run templates setting field rules { e with description := text } s outcomes
          { e' with description := text ++ fragments } s' := by
  induction h with
  | nil e s =>
    refine ⟨[], .nil, (List.append_nil _).symm, ?_⟩
    intro text
    rw [List.append_nil]
    exact .nil _ s
  | cons step rest ih =>
    obtain ⟨own, hown, hgrown, hstep⟩ := step.frame
    obtain ⟨later, hlater, hgrown', hrest⟩ := ih
    refine ⟨own ++ later, hown.append hlater, ?_, ?_⟩
    · rw [hgrown', hgrown, List.append_assoc]
    · intro text
      rw [← List.append_assoc]
      exact .cons (hstep text) (hrest (text ++ own))

/-! ## Completing an entry -/

theorem Example.isEmpty_iff {value : Example} : value.isEmpty = true ↔ value = .empty := by
  cases value <;> simp [isEmpty]

/-- The entry completed with a value. -/
def Entry.completed (e : Entry) (value : Example) : Entry :=
  { e with type := some (e.type.getD .string), value := value }

/-- An entry without a value gets a word, and any other keeps its value. -/
theorem finalize_eq_ok {e entry : Entry} {s s' : Stream} :
    (finalize e).run s = .ok (entry, s') ↔
      (e.value = .empty ∧ ∃ w, Sampler.word.run s = .ok (w, s') ∧ entry = e.completed (.text w)) ∨
        (e.value ≠ .empty ∧ s' = s ∧ entry = e.completed e.value) := by
  rw [finalize]
  by_cases hempty : e.value = .empty
  · rw [if_pos (Example.isEmpty_iff.mpr hempty)]
    simp only [pure_bind]
    rw [Sampler.bind_pure_eq_ok]
    constructor
    · intro hword
      exact .inl ⟨hempty, hword⟩
    · rintro (⟨-, hword⟩ | ⟨hne, -⟩)
      · exact hword
      · exact absurd hempty hne
  · rw [if_neg (mt Example.isEmpty_iff.mp hempty), pure_bind, Sampler.pure_eq_ok]
    constructor
    · rintro ⟨rfl, rfl⟩
      exact .inr ⟨hempty, rfl, rfl⟩
    · rintro (⟨h, -⟩ | ⟨-, rfl, rfl⟩)
      · exact absurd h hempty
      · exact ⟨rfl, rfl⟩

theorem finalize_eq_error {e : Entry} {s : Stream} {cause : Interruption} :
    (finalize e).run s = .error cause ↔
      e.value = .empty ∧ Sampler.word.run s = .error cause := by
  rw [finalize]
  by_cases hempty : e.value = .empty
  · rw [if_pos (Example.isEmpty_iff.mpr hempty)]
    simp only [pure_bind]
    rw [Sampler.bind_pure_eq_error, and_iff_right hempty]
  · rw [if_neg (mt Example.isEmpty_iff.mp hempty), pure_bind]
    exact iff_of_false Sampler.pure_ne_error fun h => hempty h.1

section

variable {e entry : Entry} {s s' : Stream}

theorem required_of_finalize (h : (finalize e).run s = .ok (entry, s')) :
    entry.required = e.required := by
  rcases finalize_eq_ok.mp h with ⟨-, w, -, rfl⟩ | ⟨-, -, rfl⟩ <;> rfl

theorem type_of_finalize (h : (finalize e).run s = .ok (entry, s')) :
    entry.type = some (e.type.getD .string) := by
  rcases finalize_eq_ok.mp h with ⟨-, w, -, rfl⟩ | ⟨-, -, rfl⟩ <;> rfl

theorem value_of_finalize (h : (finalize e).run s = .ok (entry, s')) (hne : e.value ≠ .empty) :
    entry.value = e.value := by
  rcases finalize_eq_ok.mp h with ⟨hempty, -⟩ | ⟨-, -, rfl⟩
  · exact absurd hempty hne
  · rfl

theorem description_of_finalize (h : (finalize e).run s = .ok (entry, s')) :
    entry.description = e.description := by
  rcases finalize_eq_ok.mp h with ⟨-, w, -, rfl⟩ | ⟨-, -, rfl⟩ <;> rfl

end

theorem finalize_frame {e entry : Entry} {s s' : Stream}
    (h : (finalize e).run s = .ok (entry, s')) (text : List String) :
    (finalize { e with description := text }).run s =
      .ok ({ entry with description := text }, s') := by
  rw [finalize_eq_ok] at h ⊢
  rcases h with ⟨hempty, w, hword, rfl⟩ | ⟨hne, rfl, rfl⟩
  · exact .inl ⟨hempty, w, hword, rfl⟩
  · exact .inr ⟨hne, rfl, rfl⟩

/-! ## Whole fields -/

namespace Sampler

variable {α β : Type} {seed : String}

theorem onSeed_eq_ok {x : Sampler α} {a : α} :
    x.onSeed seed = .ok a ↔ ∃ s', x.run (Stream.ofText seed) = .ok (a, s') := by
  unfold onSeed
  rcases x.run (Stream.ofText seed) with cause | ⟨a', s'⟩ <;> simp [Except.map]

theorem onSeed_eq_error {x : Sampler α} {cause : Interruption} :
    x.onSeed seed = .error cause ↔ x.run (Stream.ofText seed) = .error cause := by
  unfold onSeed
  rcases x.run (Stream.ofText seed) with cause' | ⟨a', s'⟩ <;> simp [Except.map]

theorem onSeed_map (g : α → β) (x : Sampler α) :
    (g <$> x).onSeed seed = (x.onSeed seed).map g := by
  unfold onSeed
  rw [StateT.run_map]
  rcases x.run (Stream.ofText seed) with cause | ⟨a, s'⟩ <;> rfl

end Sampler

/-- A traced field comes of a run on the empty entry, which is completed then. -/
theorem aggregate_eq_ok {rules : List String} {seed : String} {a : Aggregate}
    (h : aggregate templates setting field rules seed = .ok a) :
    ∃ e s s', Run templates setting field rules {} (Stream.ofText seed) a.outcomes e s ∧
      (finalize e).run s = .ok (a.entry, s') := by
  obtain ⟨s', hrun⟩ := Sampler.onSeed_eq_ok.mp h
  obtain ⟨⟨e, outcomes, events⟩, s, hrules, hrest⟩ := Sampler.bind_eq_ok.mp hrun
  obtain ⟨entry, hfinal, rfl⟩ := Sampler.bind_pure_eq_ok.mp hrest
  exact ⟨e, s, s', run_of_traceRules hrules, hfinal⟩

theorem aggregate_of_run {rules : List String} {seed : String} {outcomes : List Outcome}
    {e entry : Entry} {s s' : Stream}
    (hrun : Run templates setting field rules {} (Stream.ofText seed) outcomes e s)
    (hfinal : (finalize e).run s = .ok (entry, s')) :
    ∃ a, aggregate templates setting field rules seed = .ok a ∧ a.entry = entry ∧
      a.outcomes = outcomes := by
  obtain ⟨events, hrules⟩ := traceRules_of_run hrun
  let a : Aggregate :=
    ⟨field, seed, (Checksum.ofText seed).toNat, entry, outcomes, events⟩
  refine ⟨a, Sampler.onSeed_eq_ok.mpr ⟨s', Sampler.bind_eq_ok.mpr ⟨_, s, hrules, ?_⟩⟩, rfl, rfl⟩
  exact Sampler.bind_pure_eq_ok.mpr ⟨entry, hfinal, rfl⟩

/-- A traced field is interrupted by one of its rules or in the end, when its entry is completed. -/
theorem aggregate_eq_error {rules : List String} {seed : String} {cause : Interruption} :
    aggregate templates setting field rules seed = .error cause ↔
      (traceRules templates setting field rules {}).run (Stream.ofText seed) = .error cause ∨
        ∃ outcomes e s, Run templates setting field rules {} (Stream.ofText seed) outcomes e s ∧
          (finalize e).run s = .error cause := by
  rw [aggregate, Sampler.onSeed_eq_error, Sampler.bind_eq_error]
  refine or_congr_right ?_
  constructor
  · rintro ⟨⟨e, outcomes, events⟩, s, hrules, hrest⟩
    exact ⟨outcomes, e, s, run_of_traceRules hrules, Sampler.bind_pure_eq_error.mp hrest⟩
  · rintro ⟨outcomes, e, s, hrun, hfinal⟩
    obtain ⟨events, hrules⟩ := traceRules_of_run hrun
    exact ⟨_, s, hrules, Sampler.bind_pure_eq_error.mpr hfinal⟩

/-- The pass that keeps the entry alone is the traced pass without its trace. -/
theorem applyRules_eq (rules : List String) (e : Entry) :
    applyRules templates setting field rules e =
      (·.1) <$> traceRules templates setting field rules e := by
  induction rules generalizing e with
  | nil => rfl
  | cons raw raws ih =>
    rw [applyRules, traceRules, traceRule]
    simp only [bind_assoc, map_bind]
    refine bind_congr ?_
    intro result
    cases result with
    | none => simp [ih]
    | some a => simp [ih]

theorem aggregateEntry_eq (rules : List String) (seed : String) :
    aggregateEntry templates setting field rules seed =
      (aggregate templates setting field rules seed).map (·.entry) := by
  unfold aggregateEntry aggregate
  rw [← Sampler.onSeed_map, applyRules_eq, map_bind, bind_map_left]
  refine congrArg (Sampler.onSeed seed) (bind_congr ?_)
  intro traced
  simp

end FieldGuide
