import FieldGuide.Application
import FieldGuide.Proofs.Drawing
import FieldGuide.Proofs.Rendering
set_option autoImplicit false

/-!
# What a rule reads before it draws

The effects of a rule first read its parameters, and only then draw from the stream.  `Plan` is what
is known of an example when its parameters have been read, and `Findings` is all that a rule finds
out by reading.  Applying a rule means to look for its findings, to carry out its plan, and to settle
both in the entry; the first of these never sees the stream and the last one cannot fail.
-/

namespace FieldGuide

/-! ## Plans -/

/-- What is known of the example of a rule before anything is drawn. -/
inductive Plan where
  /-- no example is chosen here -/
  | skip
  /-- the example is dropped -/
  | drop (error : RuleError)
  /-- an example is drawn -/
  | draw (sampler : Sampler Example)

namespace Plan

/-- The plan of an example whose parameters have been read. -/
def ofReading : Except RuleError (Sampler Example) → Plan
  | .ok sampler => draw sampler
  | .error error => drop error

/-- The plan of an example that needs no drawing. -/
def ofAttempt (a : Attempt Example) : Except Interruption Plan := do
  return ofReading ((← a.run).map pure)

/-- Carries a plan out. -/
def run : Plan → Sampler (Except RuleError (Option Example))
  | skip => pure (.ok none)
  | drop error => pure (.error error)
  | draw sampler => do return .ok (some (← sampler))

end Plan

/-- The sampler of an example of as many digits as the first parameter says. -/
def digitsReading (i : Input) : Except RuleError (Sampler Example) := do
  let count ← i.integer 0
  if count < 1 ∨ mostDigits < count then
    throw (.invalidNumber i.rule (toString count.toInt))
  else if count < digitsAsText then
    return .number <$> Sampler.numberOfDigits (some count.toInt.toNat) true
  else return (fun cs => .text (String.ofList cs)) <$> Sampler.digitString count.toInt.toNat

/-- The plan of an example. -/
def Exemplifying.plan (i : Input) : Exemplifying → Except Interruption Plan
  | fixed value => .ok (.draw (pure value))
  | word => .ok (.draw (.text <$> Sampler.word))
  | number => .ok (.draw (.number <$> Sampler.numberOfDigits none false))
  | date => .ok (.draw ((fun text => .text (text.getD "")) <$> Sampler.dateText? datePattern))
  | email => .ok (.draw (.text <$> Sampler.email))
  | url => .ok (.draw (.text <$> Sampler.url))
  | address => .ok (.draw (.text <$> Sampler.address))
  | atLeast =>
    if i.isNumeric then
      .ok (.ofReading ((i.integer 0).map fun low =>
        .number <$> Sampler.between low (max Sampler.greatest low)))
    else .ok .skip
  | atMost =>
    if i.isNumeric then
      .ok (.ofReading ((i.integer 0).map fun high => .number <$> Sampler.between 0 high))
    else .ok .skip
  | within =>
    .ok (.ofReading (do
      let a ← i.integer 0
      let b ← i.integer 1
      return .number <$> Sampler.between a b))
  | digits => .ok (.ofReading (digitsReading i))
  | dayFromBound days => Plan.ofAttempt (FieldGuide.dayFromBound i days)
  | referenceTime => Plan.ofAttempt (FieldGuide.referenceTime i)
  | timezone => .ok (.draw (.text <$> Sampler.timezone))
  | member =>
    .ok (.ofReading (i.list.map fun items =>
      (fun item => .text (item.getD "")) <$> Sampler.element items))

/-! ## A choice carries out its plan -/

variable {α β : Type}

theorem run_drawn (x : Sampler α) (g : α → Example) :
    (do return some (g (← x)) : Choice (Option Example)).run = (Plan.draw (g <$> x)).run := by
  simp [Plan.run, Except.map]

/-- Reading a parameter and drawing by it: where the reading fails, nothing is drawn. -/
theorem run_read (r : Except RuleError α) (x : α → Sampler β) (g : β → Example) :
    (do
      let a ← r
      return some (g (← x a)) : Choice (Option Example)).run =
    (Plan.ofReading (r.map fun a => g <$> x a)).run := by
  cases r with
  | error error => rfl
  | ok a => exact run_drawn (x a) g

theorem run_attempted (a : Attempt Example) :
    (do return some (← a.toChoice) : Choice (Option Example)).run =
      (do (← StateT.lift (Plan.ofAttempt a)).run) := by
  unfold Plan.ofAttempt Attempt.toChoice
  rcases a.run with cause | (error | value) <;> rfl

theorem lift_ok_bind (a : α) (f : α → Sampler β) :
    (StateT.lift (.ok a : Except Interruption α) : Sampler α) >>= f = f a := rfl

theorem dateText?_datePattern {s s' : Stream} {text : Option String}
    (h : (Sampler.dateText? datePattern).run s = .ok (text, s')) : ∃ t, text = some t := by
  obtain ⟨d, -, rfl⟩ := Sampler.bind_pure_eq_ok.mp h
  obtain ⟨cs, hcs⟩ := Option.isSome_iff_exists.mp (Calendar.onDate?_datePattern_isSome d)
  rw [hcs]
  exact ⟨_, rfl⟩

theorem ok_bind (a : α) (f : α → Except RuleError β) : (.ok a : Except RuleError α) >>= f = f a :=
  rfl

theorem Choice.ok_bind (a : α) (f : α → Choice β) :
    (liftM (.ok a : Except RuleError α) : Choice α) >>= f = f a := rfl

theorem run_lift_bind (x : Sampler α) (f : α → Choice β) :
    ((liftM x : Choice α) >>= f).run = x >>= fun a => (f a).run :=
  ExceptT.run_bind_lift x f

/-- A text that is always there once it has been drawn needs no case for its absence. -/
theorem run_drawnText {x : Sampler (Option String)} {f : Option String → Choice (Option Example)}
    (hsome : ∀ {s s' text}, x.run s = .ok (text, s') → ∃ t, text = some t)
    (hf : ∀ t, f (some t) = pure (some (.text t))) :
    (liftM x >>= f : Choice (Option Example)).run =
      (Plan.draw ((fun text => .text (text.getD "")) <$> x)).run := by
  rw [Plan.run, run_lift_bind, map_eq_pure_bind, bind_assoc]
  refine StateT.ext ?_
  intro s
  rw [StateT.run_bind, StateT.run_bind]
  rcases h : x.run s with cause | ⟨text, s'⟩
  · rfl
  · obtain ⟨t, rfl⟩ := hsome h
    exact congrArg (fun c : Choice (Option Example) => c.run.run s') (hf t)

theorem Input.list_ne_nil {i : Input} {items : List String} (h : i.list = .ok items) :
    items ≠ [] := by
  unfold Input.list at h
  split at h
  · cases h
  · rename_i hne
    rwa [← Except.ok.inj h]

theorem Exemplifying.run_choose (i : Input) (x : Exemplifying) :
    (x.choose i).run = (do (← StateT.lift (x.plan i)).run) := by
  cases x with
  | fixed value => rfl
  | date =>
    rw [choose, plan, lift_ok_bind]
    refine run_drawnText dateText?_datePattern ?_
    intro t
    rfl
  | atLeast =>
    rw [choose, plan]
    split
    · exact run_read _ _ _
    · rfl
  | atMost =>
    rw [choose, plan]
    split
    · exact run_read _ _ _
    · rfl
  | within =>
    rw [choose, plan]
    cases i.integer 0 with
    | error error => rfl
    | ok a => exact run_read _ _ _
  | digits =>
    rw [choose, plan, chooseDigits, digitsReading]
    cases i.integer 0 with
    | error error => rfl
    | ok count =>
      rw [ok_bind, Choice.ok_bind, lift_ok_bind]
      by_cases hcount : count < 1 ∨ mostDigits < count
      · simp only [if_pos hcount]
        rfl
      · simp only [if_neg hcount]
        split
        all_goals
          rw [bind_assoc]
          exact run_drawn _ _
  | dayFromBound days =>
    rw [choose, plan]
    exact run_attempted _
  | referenceTime =>
    rw [choose, plan]
    exact run_attempted _
  | member =>
    rw [choose, plan, lift_ok_bind]
    rcases h : i.list with error | items
    · rfl
    · refine run_drawnText (Sampler.element_ne_none (Input.list_ne_nil h)) ?_
      intro t
      rfl
  | _ =>
    rw [choose, plan, lift_ok_bind]
    exact run_drawn _ _

/-! ## Findings -/

/-- The arguments of a description: none if the rule has no description, else a reading of the
parameters that may fail. -/
abbrev Arguments := Option (Except RuleError (List String))

/-- What a rule finds out before it draws. -/
structure Findings where
  arguments : Arguments
  plan : Plan

/-- What the effects of a rule of some kind can read. -/
def Kind.input (k : Kind) (setting : Setting) (field : String) (parameters : List String)
    (type : Option FieldType) : Input := ⟨k.name, field, parameters, type, setting⟩

/-- The arguments of a description that a rule may have. -/
def readArguments (i : Input) : Option Describing → Except Interruption Arguments
  | none => return none
  | some d => do return some (← (d.arguments i).run)

/-- The plan of an example that a rule may have. -/
def readPlan (i : Input) : Option Exemplifying → Except Interruption Plan
  | none => return .skip
  | some x => x.plan i

/-- Reads what the description needs, and then what the example needs. -/
def Kind.findings (k : Kind) (i : Input) : Except Interruption Findings := do
  return ⟨← readArguments i k.spec.describing, ← readPlan i k.spec.exemplifying⟩

/-! ## Settling findings in an entry -/

/-- The fragment that arguments put into a description. -/
def Arguments.fragments (template : String) : Arguments → List String
  | some (.ok args) => [Template.fill template args]
  | _ => []

/-- The fate of the description with some arguments. -/
def Arguments.fate : Arguments → Fate
  | none => .absent
  | some (.ok _) => .done
  | some (.error error) => .dropped error

/-- The example value behind a choice. -/
def valueAfter (old : Example) : Except RuleError (Option Example) → Example
  | .ok (some value) => value
  | _ => old

/-- The fate of the example of a choice. -/
def fateOfChoice : Except RuleError (Option Example) → Fate
  | .ok (some _) => .done
  | .ok none => .absent
  | .error error => .dropped error

/-- Settles in an entry what a rule has read and chosen. -/
def Kind.settle (k : Kind) (templates : Templates) (e : Entry) (arguments : Arguments)
    (chosen : Except RuleError (Option Example)) : Application where
  entry := {
    required := e.required || k.spec.required
    type := k.spec.typing.apply e.type
    value := valueAfter e.value chosen
    description := e.description ++ arguments.fragments (templates k.name) }
  effects := {
    required := k.spec.required
    forcesType := k.spec.typing.isForce
    defaultsType := k.spec.typing.isFallback && e.type.isNone
    describes := arguments.fate == .done
    exemplifies := fateOfChoice chosen == .done }
  describing := arguments.fate
  exemplifying := fateOfChoice chosen

theorem addDescription_eq (templates : Templates) (i : Input) (describing : Option Describing)
    (e : Entry) :
    addDescription templates i describing e = (do
      let arguments ← readArguments i describing
      return ({ e with description := e.description ++ arguments.fragments (templates i.rule) },
        arguments.fate)) := by
  cases describing with
  | none => simp [addDescription, readArguments, Arguments.fragments, Arguments.fate]
  | some d =>
    rw [addDescription, readArguments]
    rcases (d.arguments i).run with cause | (error | args)
    · rfl
    · simp [bind, Except.bind, pure, Except.pure, Arguments.fragments, Arguments.fate]
    · rfl

theorem setExample_eq (i : Input) (exemplifying : Option Exemplifying) (e : Entry) :
    setExample i exemplifying e = (do
      let plan ← StateT.lift (readPlan i exemplifying)
      let chosen ← plan.run
      return ({ e with value := valueAfter e.value chosen }, fateOfChoice chosen)) := by
  cases exemplifying with
  | none => rfl
  | some x =>
    rw [setExample, readPlan, x.run_choose, bind_assoc]
    congr 1
    funext plan
    congr 1
    funext chosen
    rcases chosen with error | (_ | value) <;> rfl

/-- Applying a rule: the findings first, then its plan, and what comes of both in the entry. -/
theorem Kind.apply_eq (templates : Templates) (setting : Setting) (field : String) (k : Kind)
    (parameters : List String) (e : Entry) :
    k.apply templates setting field parameters e = (do
      let found ← StateT.lift
        (k.findings (k.input setting field parameters (k.spec.typing.apply e.type)))
      return k.settle templates e found.arguments (← found.plan.run)) := by
  unfold Kind.apply Kind.findings Kind.input
  simp only [addDescription_eq, setExample_eq]
  rcases readArguments _ k.spec.describing with cause | arguments
  · rfl
  · rcases readPlan _ k.spec.exemplifying with cause | plan
    · rfl
    · refine StateT.ext ?_
      intro s
      simp only [StateT.run_bind]
      change (plan.run.run s >>= _) >>= _ = plan.run.run s >>= _
      rcases plan.run.run s with cause | ⟨chosen, s'⟩ <;> rfl

/-- What applying a rule comes to, if it comes to anything. -/
theorem Kind.apply_eq_ok {templates : Templates} {setting : Setting} {field : String} {k : Kind}
    {parameters : List String} {e : Entry} {s s' : Stream} {a : Application} :
    (k.apply templates setting field parameters e).run s = .ok (a, s') ↔
      ∃ found chosen,
        k.findings (k.input setting field parameters (k.spec.typing.apply e.type)) = .ok found ∧
          found.plan.run.run s = .ok (chosen, s') ∧
            a = k.settle templates e found.arguments chosen := by
  rw [Kind.apply_eq, Sampler.bind_eq_ok]
  constructor
  · rintro ⟨found, s₁, hlift, hrest⟩
    obtain ⟨hfound, rfl⟩ := Sampler.lift_eq_ok.mp hlift
    obtain ⟨chosen, hchosen, ha⟩ := Sampler.bind_pure_eq_ok.mp hrest
    exact ⟨found, chosen, hfound, hchosen, ha⟩
  · rintro ⟨found, chosen, hfound, hchosen, ha⟩
    exact ⟨found, s, Sampler.lift_eq_ok.mpr ⟨hfound, rfl⟩,
      Sampler.bind_pure_eq_ok.mpr ⟨chosen, hchosen, ha⟩⟩

/-- Applying a rule is interrupted by its reading or by its drawing. -/
theorem Kind.apply_eq_error {templates : Templates} {setting : Setting} {field : String}
    {k : Kind} {parameters : List String} {e : Entry} {s : Stream} {cause : Interruption} :
    (k.apply templates setting field parameters e).run s = .error cause ↔
      k.findings (k.input setting field parameters (k.spec.typing.apply e.type)) = .error cause ∨
        ∃ found,
          k.findings (k.input setting field parameters (k.spec.typing.apply e.type)) = .ok found ∧
            found.plan.run.run s = .error cause := by
  rw [Kind.apply_eq, Sampler.bind_eq_error, Sampler.lift_eq_error]
  refine or_congr_right ?_
  constructor
  · rintro ⟨found, s₁, hlift, hrest⟩
    obtain ⟨hfound, rfl⟩ := Sampler.lift_eq_ok.mp hlift
    exact ⟨found, hfound, Sampler.bind_pure_eq_error.mp hrest⟩
  · rintro ⟨found, hfound, hrun⟩
    exact ⟨found, s, Sampler.lift_eq_ok.mpr ⟨hfound, rfl⟩, Sampler.bind_pure_eq_error.mpr hrun⟩

end FieldGuide
