import FieldGuide.Proofs.Reading
set_option autoImplicit false

/-!
# What rules find out

The possible results of reading the parameters of a rule: when the reading breaks off, which errors
there are and what they name, when a rule skips its example, and what a plan that is left to be
drawn can give.
-/

namespace FieldGuide

variable {α β : Type}

/-! ## Attempts in a row -/

namespace Attempt

theorem bind_eq_error {a : Attempt α} {f : α → Attempt β} {cause : Interruption} :
    (a >>= f).run = .error cause ↔
      a.run = .error cause ∨ ∃ x, a.run = .ok (.ok x) ∧ (f x).run = .error cause := by
  rw [ExceptT.run_bind]
  rcases a.run with cause' | (error | x) <;>
    simp [bind, Except.bind, pure, Except.pure]

theorem bind_eq_dropped {a : Attempt α} {f : α → Attempt β} {error : RuleError} :
    (a >>= f).run = .ok (.error error) ↔
      a.run = .ok (.error error) ∨
        ∃ x, a.run = .ok (.ok x) ∧ (f x).run = .ok (.error error) := by
  rw [ExceptT.run_bind]
  rcases a.run with cause' | (error' | x) <;>
    simp [bind, Except.bind, pure, Except.pure]

theorem bind_eq_done {a : Attempt α} {f : α → Attempt β} {y : β} :
    (a >>= f).run = .ok (.ok y) ↔ ∃ x, a.run = .ok (.ok x) ∧ (f x).run = .ok (.ok y) := by
  rw [ExceptT.run_bind]
  rcases a.run with cause' | (error' | x) <;>
    simp [bind, Except.bind, pure, Except.pure]

theorem run_interrupt (cause : Interruption) : (interrupt cause : Attempt α).run = .error cause :=
  rfl

theorem run_lift (r : Except RuleError α) : (liftM r : Attempt α).run = .ok r := by
  cases r <;> rfl

end Attempt

/-! ## Errors tell of their rule -/

/-- The texts that an error shows beside the name of its rule. -/
def RuleError.values : RuleError → List String
  | invalidNumber _ value => [value]
  | invalidDate _ value => [value]
  | _ => []

/-- The error names the rule, and what it shows is a parameter of the rule or a whole number. -/
def RuleError.TellsOf (error : RuleError) (i : Input) : Prop :=
  error.rule = i.rule ∧
    ∀ value ∈ error.values, value ∈ i.parameters ∨ ∃ n : Int, value = toString n

/-- Every error of the reading tells of the rule. -/
def FailsOver (i : Input) (r : Except RuleError α) : Prop :=
  ∀ error, r = .error error → error.TellsOf i

theorem FailsOver.ok (i : Input) (a : α) : FailsOver i (.ok a) := by
  rintro error ⟨⟩

theorem FailsOver.error {i : Input} {error : RuleError} (h : error.TellsOf i) :
    FailsOver i (.error error : Except RuleError α) := by
  rintro _ ⟨⟩
  exact h

theorem FailsOver.bind {i : Input} {r : Except RuleError α} {f : α → Except RuleError β}
    (hr : FailsOver i r) (hf : ∀ a, FailsOver i (f a)) : FailsOver i (r >>= f) := by
  cases r with
  | error error => exact .error (hr error rfl)
  | ok a => exact hf a

/-- Every error with which the attempt ends tells of the rule. -/
def Attempt.FailsOver (i : Input) (a : Attempt α) : Prop :=
  ∀ r, a.run = .ok r → FieldGuide.FailsOver i r

namespace Attempt.FailsOver

variable {i : Input}

theorem pure (i : Input) (x : α) : (pure x : Attempt α).FailsOver i := by
  rintro _ ⟨⟩
  exact .ok i x

theorem throw {error : RuleError} (h : error.TellsOf i) :
    (throw error : Attempt α).FailsOver i := by
  rintro _ ⟨⟩
  exact .error h

theorem interrupt (i : Input) (cause : Interruption) :
    (interrupt cause : Attempt α).FailsOver i := by
  rintro _ ⟨⟩

theorem lift {r : Except RuleError α} (h : FieldGuide.FailsOver i r) :
    (liftM r : Attempt α).FailsOver i := by
  intro r' hr'
  rw [run_lift] at hr'
  rwa [← Except.ok.inj hr']

/-- What goes on from a value may use that it is the one that has been read. -/
theorem bind_done {a : Attempt α} {f : α → Attempt β} (ha : a.FailsOver i)
    (hf : ∀ x, a.run = .ok (.ok x) → (f x).FailsOver i) : (a >>= f).FailsOver i := by
  rintro r hr error rfl
  rcases bind_eq_dropped.mp hr with h | ⟨x, hx, h⟩
  · exact ha _ h error rfl
  · exact hf x hx _ h error rfl

theorem bind {a : Attempt α} {f : α → Attempt β} (ha : a.FailsOver i)
    (hf : ∀ x, (f x).FailsOver i) : (a >>= f).FailsOver i :=
  ha.bind_done fun x _ => hf x

end Attempt.FailsOver

namespace Input

variable (i : Input)

theorem parameter_eq_ok {i : Input} {index : Nat} {text : String} :
    i.parameter index = .ok text ↔ i.parameters[index]? = some text := by
  unfold parameter
  cases i.parameters[index]? <;> simp

/-- A parameter that has been read is one of the parameters. -/
theorem mem_of_parameter {i : Input} {index : Nat} {text : String}
    (h : (liftM (i.parameter index) : Attempt String).run = .ok (.ok text)) :
    text ∈ i.parameters := by
  rw [Attempt.run_lift] at h
  exact List.mem_of_getElem? (parameter_eq_ok.mp (Except.ok.inj h))

theorem parameter_failsOver (index : Nat) : FailsOver i (i.parameter index) := by
  unfold parameter
  split
  · exact .ok _ _
  · exact .error ⟨rfl, nofun⟩

theorem list_failsOver : FailsOver i i.list := by
  unfold list
  split
  · exact .error ⟨rfl, nofun⟩
  · exact .ok _ _

theorem invalidNumber_tellsOf {i : Input} {value : String}
    (h : value ∈ i.parameters ∨ ∃ n : Int, value = toString n) :
    (RuleError.invalidNumber i.rule value).TellsOf i := by
  refine ⟨rfl, fun value' hmem => ?_⟩
  rwa [List.mem_singleton.mp hmem]

theorem invalidDate_tellsOf {i : Input} {value : String} (h : value ∈ i.parameters) :
    (RuleError.invalidDate i.rule value).TellsOf i := by
  refine ⟨rfl, fun value' hmem => .inl ?_⟩
  rwa [List.mem_singleton.mp hmem]

theorem integer_failsOver (index : Nat) : FailsOver i (i.integer index) := by
  unfold integer
  cases hraw : i.parameter index with
  | error error => exact .error (i.parameter_failsOver index error hraw)
  | ok raw =>
    rw [ok_bind]
    split
    · exact .ok _ _
    · have hmem := List.mem_of_getElem? (parameter_eq_ok.mp hraw)
      exact .error (invalidNumber_tellsOf (.inl hmem))

theorem moment_failsOver {i : Input} {raw : String} (hraw : raw ∈ i.parameters) :
    (i.moment raw).FailsOver i := by
  unfold moment
  dsimp only
  split
  · exact .pure _ _
  · split
    · exact .pure _ _
    · exact .throw (invalidDate_tellsOf hraw)
    · exact .interrupt _ _

end Input

theorem boundText_failsOver (i : Input) (m : Calendar.Moment) : (boundText m).FailsOver i := by
  unfold boundText
  split
  · exact .pure _ _
  · exact .interrupt _ _

/-- Going on from the first parameter, which is one of the parameters. -/
theorem first_bind_failsOver {i : Input} {f : String → Attempt α}
    (hf : ∀ raw ∈ i.parameters, (f raw).FailsOver i) :
    ((liftM (i.parameter 0) : Attempt String) >>= f).FailsOver i := by
  exact (Attempt.FailsOver.lift (i.parameter_failsOver 0)).bind_done fun raw hraw =>
    hf raw (Input.mem_of_parameter hraw)

theorem Describing.arguments_failsOver (i : Input) (d : Describing) :
    (d.arguments i).FailsOver i := by
  have hlist : (liftM i.list : Attempt (List String)).FailsOver i := .lift i.list_failsOver
  cases d with
  | bare => exact .pure _ _
  | first => exact first_bind_failsOver fun _ _ => .pure _ _
  | pair =>
    exact first_bind_failsOver fun _ _ =>
      (Attempt.FailsOver.lift (i.parameter_failsOver 1)).bind fun _ => .pure _ _
  | anyOf => exact hlist.bind fun _ => .pure _ _
  | allOf => exact hlist.bind fun _ => .pure _ _
  | conditions => exact hlist.bind fun _ => .pure _ _
  | bound =>
    exact first_bind_failsOver fun raw hraw => (Input.moment_failsOver hraw).bind fun m =>
      (boundText_failsOver i m).bind fun _ => .pure _ _
  | tableAndColumn => exact first_bind_failsOver fun _ _ => .pure _ _

theorem dayFromBound_failsOver (i : Input) (days : Int) :
    (dayFromBound i days).FailsOver i := by
  refine first_bind_failsOver fun raw hraw => (Input.moment_failsOver hraw).bind ?_
  intro m
  split
  · exact (boundText_failsOver i _).bind fun _ => .pure _ _
  · exact .throw (Input.invalidDate_tellsOf hraw)

theorem referenceTime_failsOver (i : Input) : (referenceTime i).FailsOver i := by
  refine first_bind_failsOver ?_
  intro format _
  split
  · exact .pure _ _
  · exact .interrupt _ _

theorem digitsReading_failsOver (i : Input) : FailsOver i (digitsReading i) := by
  refine (i.integer_failsOver 0).bind ?_
  intro count
  split
  · exact .error (Input.invalidNumber_tellsOf (.inr ⟨_, rfl⟩))
  · split
    · exact .ok _ _
    · exact .ok _ _

/-! ## When the reading breaks off -/

/-- The text is no date in figures, and reading it as a date phrase breaks off. -/
def Setting.BreaksOn (setting : Setting) (text : String) : Prop :=
  Calendar.Iso.read? (Text.trim text.toList) = none ∧
    DatePhrase.moment setting.dialect setting.reference (Text.trim text.toList) = .error .broken

/-- There is a first parameter, and reading it as a date breaks off. -/
def Input.Breaks (i : Input) : Prop := ∃ raw, i.parameter 0 = .ok raw ∧ i.setting.BreaksOn raw

namespace Attempt

/-- The attempt never interrupts. -/
def Returns (a : Attempt α) : Prop := ∀ cause, a.run ≠ .error cause

theorem returns_pure (x : α) : (pure x : Attempt α).Returns := by
  rintro cause ⟨⟩

theorem returns_throw (error : RuleError) : (throw error : Attempt α).Returns := by
  rintro cause ⟨⟩

theorem returns_lift (r : Except RuleError α) : (liftM r : Attempt α).Returns := by
  intro cause h
  rw [run_lift] at h
  cases h

theorem Returns.bind {a : Attempt α} {f : α → Attempt β} (ha : a.Returns)
    (hf : ∀ x, (f x).Returns) : (a >>= f).Returns := by
  intro cause h
  rcases bind_eq_error.mp h with h | ⟨x, -, h⟩
  · exact ha cause h
  · exact hf x cause h

end Attempt

theorem Input.moment_eq_error {i : Input} {raw : String} {cause : Interruption} :
    (i.moment raw).run = .error cause ↔ cause = .phrase ∧ i.setting.BreaksOn raw := by
  unfold Input.moment Setting.BreaksOn
  dsimp only
  cases hiso : Calendar.Iso.read? (Text.trim raw.toList) with
  | some m => exact iff_of_false (Attempt.returns_pure m cause) (by simp)
  | none =>
    rcases DatePhrase.moment i.setting.dialect i.setting.reference (Text.trim raw.toList) with
      (_ | _) | m
    · exact iff_of_false (Attempt.returns_throw _ cause) (by simp)
    · rw [Attempt.run_interrupt]
      simp [eq_comm]
    · exact iff_of_false (Attempt.returns_pure m cause) (by simp)

theorem returns_boundText (m : Calendar.Moment) : (boundText m).Returns := by
  unfold boundText
  split
  · exact Attempt.returns_pure _
  · rename_i hnone
    have hsome := Calendar.boundText?_isSome m
    rw [hnone] at hsome
    cases hsome

theorem returns_referenceTime (i : Input) : (referenceTime i).Returns := by
  refine (Attempt.returns_lift _).bind ?_
  intro format
  split
  · exact Attempt.returns_pure _
  · rename_i hnone
    have hsome := Calendar.format?_isSome format.toList i.setting.reference
    rw [hnone] at hsome
    cases hsome

/-- What goes on from the moment of the first parameter breaks off where that moment does. -/
theorem moment_bind_eq_error {i : Input} {f : String → Calendar.Moment → Attempt α}
    (hf : ∀ raw m, (f raw m).Returns) {cause : Interruption} :
    (do
      let raw ← (liftM (i.parameter 0) : Attempt String)
      f raw (← i.moment raw)).run = .error cause ↔ cause = .phrase ∧ i.Breaks := by
  rw [Attempt.bind_eq_error, Attempt.run_lift]
  constructor
  · rintro (h | ⟨raw, hraw, h⟩)
    · cases h
    · rcases Attempt.bind_eq_error.mp h with hmoment | ⟨m, -, hrest⟩
      · obtain ⟨hcause, hbreaks⟩ := Input.moment_eq_error.mp hmoment
        exact ⟨hcause, raw, Except.ok.inj hraw, hbreaks⟩
      · exact absurd hrest (hf raw m cause)
  · rintro ⟨hcause, raw, hraw, hbreaks⟩
    refine .inr ⟨raw, congrArg _ hraw, Attempt.bind_eq_error.mpr (.inl ?_)⟩
    exact Input.moment_eq_error.mpr ⟨hcause, hbreaks⟩

theorem dayFromBound_eq_error {i : Input} {days : Int} {cause : Interruption} :
    (dayFromBound i days).run = .error cause ↔ cause = .phrase ∧ i.Breaks := by
  refine moment_bind_eq_error ?_
  intro raw m
  split
  · exact (returns_boundText _).bind fun _ => Attempt.returns_pure _
  · exact Attempt.returns_throw _

theorem Describing.arguments_eq_error {i : Input} {d : Describing} {cause : Interruption} :
    (d.arguments i).run = .error cause ↔ d = .bound ∧ cause = .phrase ∧ i.Breaks := by
  have hfirst := Attempt.returns_lift (i.parameter 0)
  have hlist := Attempt.returns_lift i.list
  have hnever {a : Attempt (List String)} {P : Prop} (ha : a.Returns) (hP : ¬ P) :
      a.run = .error cause ↔ P := iff_of_false (ha cause) hP
  cases d with
  | bare => exact hnever (Attempt.returns_pure _) (by simp)
  | first => exact hnever (hfirst.bind fun _ => Attempt.returns_pure _) (by simp)
  | pair =>
    refine hnever (hfirst.bind fun _ => ?_) (by simp)
    exact (Attempt.returns_lift _).bind fun _ => Attempt.returns_pure _
  | anyOf => exact hnever (hlist.bind fun _ => Attempt.returns_pure _) (by simp)
  | allOf => exact hnever (hlist.bind fun _ => Attempt.returns_pure _) (by simp)
  | conditions => exact hnever (hlist.bind fun _ => Attempt.returns_pure _) (by simp)
  | tableAndColumn => exact hnever (hfirst.bind fun _ => Attempt.returns_pure _) (by simp)
  | bound =>
    rw [show (Describing.bound = .bound ∧ cause = .phrase ∧ i.Breaks) ↔
      cause = .phrase ∧ i.Breaks by simp]
    exact moment_bind_eq_error fun raw m =>
      (returns_boundText m).bind fun _ => Attempt.returns_pure _

/-! ## What a plan can be -/

/-- Whatever is drawn is a value. -/
def Sampler.GivesValue (x : Sampler Example) : Prop :=
  ∀ {s s' : Stream} {value : Example}, x.run s = .ok (value, s') → value ≠ .empty

theorem Sampler.givesValue_map (x : Sampler α) {g : α → Example} (hg : ∀ a, g a ≠ .empty) :
    (g <$> x).GivesValue := by
  intro s s' value h
  obtain ⟨a, -, rfl⟩ := Sampler.map_eq_ok.mp h
  exact hg a

theorem Sampler.givesValue_pure {value : Example} (hne : value ≠ .empty) :
    (pure value : Sampler Example).GivesValue := by
  intro s s' value' h
  rwa [← (Sampler.pure_eq_ok.mp h).1]

namespace Plan

/-- Where a plan drops an example its error tells of the rule, and what it draws is a value that
comes of moving on in the stream. -/
def Proper (i : Input) : Plan → Prop
  | skip => True
  | drop error => error.TellsOf i
  | draw sampler => sampler.Steady ∧ sampler.GivesValue

theorem proper_draw_map (i : Input) {x : Sampler α} (hx : x.Steady) {g : α → Example}
    (hg : ∀ a, g a ≠ .empty) : (draw (g <$> x)).Proper i :=
  ⟨hx.map g, Sampler.givesValue_map x hg⟩

theorem proper_of_draw_map {i : Input} {x : Sampler α} (hx : x.Steady) {g : α → Example}
    (hg : ∀ a, g a ≠ .empty) {plan : Plan}
    (h : (.ok (draw (g <$> x)) : Except Interruption Plan) = .ok plan) : plan.Proper i := by
  cases h
  exact proper_draw_map i hx hg

theorem proper_ofReading {i : Input} {r : Except RuleError (Sampler Example)}
    (hr : FailsOver i r) (hx : ∀ x, r = .ok x → (draw x).Proper i) :
    (ofReading r).Proper i := by
  cases r with
  | error error => exact hr error rfl
  | ok x => exact hx x rfl

theorem proper_read {i : Input} {r : Except RuleError α} (hr : FailsOver i r)
    {x : α → Sampler Example} (hx : ∀ a, (draw (x a)).Proper i) :
    (ofReading (r.map x)).Proper i := by
  cases r with
  | error error => exact hr error rfl
  | ok a => exact hx a

end Plan

/-- The attempt ends with a value, if it ends with anything but an error. -/
def Attempt.GivesValue (a : Attempt Example) : Prop :=
  ∀ value, a.run = .ok (.ok value) → value ≠ .empty

theorem givesValue_dayFromBound (i : Input) (days : Int) : (dayFromBound i days).GivesValue := by
  intro value h
  obtain ⟨raw, -, h⟩ := Attempt.bind_eq_done.mp h
  obtain ⟨m, -, h⟩ := Attempt.bind_eq_done.mp h
  split at h
  · obtain ⟨text, -, h⟩ := Attempt.bind_eq_done.mp h
    cases h
    simp
  · cases h

theorem givesValue_referenceTime (i : Input) : (referenceTime i).GivesValue := by
  intro value h
  obtain ⟨format, -, h⟩ := Attempt.bind_eq_done.mp h
  split at h
  · cases h
    simp
  · cases h

theorem Plan.proper_ofAttempt {i : Input} {a : Attempt Example} (hfails : a.FailsOver i)
    (hvalue : a.GivesValue) {plan : Plan} (h : Plan.ofAttempt a = .ok plan) :
    plan.Proper i := by
  unfold Plan.ofAttempt at h
  rcases hrun : a.run with cause | (error | value)
  · rw [hrun] at h
    cases h
  · rw [hrun] at h
    cases h
    exact hfails _ hrun error rfl
  · rw [hrun] at h
    cases h
    exact ⟨.pure value, Sampler.givesValue_pure (hvalue value hrun)⟩

theorem proper_digitsReading (i : Input) : (Plan.ofReading (digitsReading i)).Proper i := by
  refine Plan.proper_ofReading (digitsReading_failsOver i) ?_
  intro x h
  unfold digitsReading at h
  cases hcount : i.integer 0 with
  | error error =>
    rw [hcount] at h
    cases h
  | ok count =>
    rw [hcount, ok_bind] at h
    split at h
    · cases h
    · split at h
      · cases h
        exact Plan.proper_draw_map _ (Sampler.steady_numberOfDigits _ _) (by simp)
      · cases h
        exact Plan.proper_draw_map _ (Sampler.steady_digitString _) (by simp)

/-- The plans of examples are proper, but for an example that is always the missing value. -/
theorem Exemplifying.plan_proper {i : Input} {x : Exemplifying} (hx : x ≠ .fixed .empty)
    {plan : Plan} (h : x.plan i = .ok plan) : plan.Proper i := by
  cases x with
  | fixed value =>
    cases h
    refine ⟨.pure value, Sampler.givesValue_pure ?_⟩
    rintro rfl
    exact hx rfl
  | word => exact Plan.proper_of_draw_map Sampler.steady_word (by simp) h
  | number => exact Plan.proper_of_draw_map (Sampler.steady_numberOfDigits _ _) (by simp) h
  | date => exact Plan.proper_of_draw_map (Sampler.steady_dateText? _) (by simp) h
  | email => exact Plan.proper_of_draw_map Sampler.steady_email (by simp) h
  | url => exact Plan.proper_of_draw_map Sampler.steady_url (by simp) h
  | address => exact Plan.proper_of_draw_map Sampler.steady_address (by simp) h
  | timezone => exact Plan.proper_of_draw_map Sampler.steady_timezone (by simp) h
  | atLeast =>
    rw [Exemplifying.plan] at h
    split at h
    · cases h
      refine Plan.proper_read (i.integer_failsOver 0) ?_
      intro low
      exact Plan.proper_draw_map _ (Sampler.steady_between _ _) (by simp)
    · cases h
      trivial
  | atMost =>
    rw [Exemplifying.plan] at h
    split at h
    · cases h
      refine Plan.proper_read (i.integer_failsOver 0) ?_
      intro high
      exact Plan.proper_draw_map _ (Sampler.steady_between _ _) (by simp)
    · cases h
      trivial
  | within =>
    cases h
    cases ha : i.integer 0 with
    | error error => exact i.integer_failsOver 0 error ha
    | ok a =>
      refine Plan.proper_read (i.integer_failsOver 1) ?_
      intro b
      exact Plan.proper_draw_map _ (Sampler.steady_between _ _) (by simp)
  | digits =>
    cases h
    exact proper_digitsReading i
  | dayFromBound days =>
    exact Plan.proper_ofAttempt (dayFromBound_failsOver i days) (givesValue_dayFromBound i days) h
  | referenceTime =>
    exact Plan.proper_ofAttempt (referenceTime_failsOver i) (givesValue_referenceTime i) h
  | member =>
    cases h
    refine Plan.proper_read i.list_failsOver ?_
    intro items
    exact Plan.proper_draw_map _ (Sampler.steady_element items) (by simp)

theorem Plan.ofAttempt_eq_error {a : Attempt Example} {cause : Interruption} :
    Plan.ofAttempt a = .error cause ↔ a.run = .error cause := by
  unfold Plan.ofAttempt
  rcases a.run with cause' | r <;> simp [bind, Except.bind, pure, Except.pure]

/-- Planning an example breaks off for the day beside a bound only. -/
theorem Exemplifying.plan_eq_error {i : Input} {x : Exemplifying} {cause : Interruption} :
    x.plan i = .error cause ↔ (∃ days, x = .dayFromBound days) ∧ cause = .phrase ∧ i.Breaks := by
  cases x with
  | dayFromBound days =>
    rw [plan, Plan.ofAttempt_eq_error, dayFromBound_eq_error]
    simp
  | referenceTime =>
    rw [plan, Plan.ofAttempt_eq_error]
    exact iff_of_false (returns_referenceTime i cause) (by simp)
  | atLeast =>
    rw [plan]
    split <;> simp
  | atMost =>
    rw [plan]
    split <;> simp
  | _ => simp [plan]

theorem Plan.ofReading_ne_skip (r : Except RuleError (Sampler Example)) :
    Plan.ofReading r ≠ .skip := by
  cases r <;> simp [Plan.ofReading]

theorem Plan.ofAttempt_ne_skip (a : Attempt Example) : Plan.ofAttempt a ≠ .ok .skip := by
  unfold Plan.ofAttempt
  rcases a.run with cause | r
  · simp [bind, Except.bind]
  · simp [bind, Except.bind, pure, Except.pure, Plan.ofReading_ne_skip]

/-- Only the bounds on one side are skipped, and only where the field holds no numbers. -/
theorem Exemplifying.plan_eq_skip {i : Input} {x : Exemplifying} :
    x.plan i = .ok .skip ↔ (x = .atLeast ∨ x = .atMost) ∧ i.isNumeric = false := by
  cases x with
  | dayFromBound days => simp [plan, Plan.ofAttempt_ne_skip]
  | referenceTime => simp [plan, Plan.ofAttempt_ne_skip]
  | atLeast =>
    rw [plan]
    split <;> simp_all [Plan.ofReading_ne_skip]
  | atMost =>
    rw [plan]
    split <;> simp_all [Plan.ofReading_ne_skip]
  | _ => simp [plan, Plan.ofReading_ne_skip]

/-! ## The findings of a kind -/

theorem readArguments_eq_error {i : Input} {describing : Option Describing}
    {cause : Interruption} :
    readArguments i describing = .error cause ↔
      describing = some .bound ∧ cause = .phrase ∧ i.Breaks := by
  cases describing with
  | none => simp [readArguments, pure, Except.pure]
  | some d =>
    rw [readArguments, Option.some.injEq, ← Describing.arguments_eq_error]
    rcases (d.arguments i).run with cause' | r <;> simp [bind, Except.bind, pure, Except.pure]

theorem readPlan_eq_error {i : Input} {exemplifying : Option Exemplifying}
    {cause : Interruption} :
    readPlan i exemplifying = .error cause ↔
      (∃ days, exemplifying = some (.dayFromBound days)) ∧ cause = .phrase ∧ i.Breaks := by
  cases exemplifying with
  | none => simp [readPlan, pure, Except.pure]
  | some x => simp [readPlan, Exemplifying.plan_eq_error]

theorem Kind.spec_bound {k : Kind} :
    k.spec.describing = some .bound ↔ k = .after ∨ k = .before := by
  cases k <;> simp [spec]

theorem Kind.spec_dayFromBound {k : Kind} :
    (∃ days, k.spec.exemplifying = some (.dayFromBound days)) ↔ k = .after ∨ k = .before := by
  cases k <;> simp [spec]

theorem Kind.spec_skips {k : Kind} :
    (k.spec.exemplifying = some .atLeast ∨ k.spec.exemplifying = some .atMost) ↔
      k = .min ∨ k = .max := by
  cases k <;> simp [spec]

theorem Kind.spec_ne_fixed_empty (k : Kind) : k.spec.exemplifying ≠ some (.fixed .empty) := by
  cases k <;> simp [spec]

/-- Only the rules that bound a date break off, and only over the phrase of their bound. -/
theorem Kind.findings_eq_error {k : Kind} {i : Input} {cause : Interruption} :
    k.findings i = .error cause ↔ (k = .after ∨ k = .before) ∧ cause = .phrase ∧ i.Breaks := by
  have hplan : readPlan i k.spec.exemplifying = .error cause ↔
      (k = .after ∨ k = .before) ∧ cause = .phrase ∧ i.Breaks := by
    rw [readPlan_eq_error, Kind.spec_dayFromBound]
  have harguments : readArguments i k.spec.describing = .error cause ↔
      (k = .after ∨ k = .before) ∧ cause = .phrase ∧ i.Breaks := by
    rw [readArguments_eq_error, Kind.spec_bound]
  rw [← harguments, findings]
  rcases h : readArguments i k.spec.describing with cause' | arguments
  · simp [bind, Except.bind]
  · have hnot : readPlan i k.spec.exemplifying ≠ .error cause := by
      intro hbreaks
      rw [harguments.mpr (hplan.mp hbreaks)] at h
      cases h
    rcases hp : readPlan i k.spec.exemplifying with cause' | plan
    · rw [hp] at hnot
      simpa [bind, Except.bind] using hnot
    · simp [bind, Except.bind, pure, Except.pure]

/-- What findings consist of. -/
theorem Kind.findings_eq_ok {k : Kind} {i : Input} {found : Findings} :
    k.findings i = .ok found ↔
      readArguments i k.spec.describing = .ok found.arguments ∧
        readPlan i k.spec.exemplifying = .ok found.plan := by
  obtain ⟨arguments, plan⟩ := found
  rw [findings]
  rcases readArguments i k.spec.describing with cause | a
  · simp [bind, Except.bind]
  · rcases readPlan i k.spec.exemplifying with cause | p <;>
      simp [bind, Except.bind, pure, Except.pure]

end FieldGuide
