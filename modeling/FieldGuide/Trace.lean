import FieldGuide.Application
set_option autoImplicit false

/-!
# The trace of a field

What every rule of a field came to, and the events of the log, in the order of the rules.
-/

namespace FieldGuide

/-- What applying a rule came to. -/
inductive Dispatch where
  /-- no kind of rules has the name -/
  | unknown
  | applied (effects : Effects) (dropped : List RuleError)
  deriving DecidableEq, Repr, Inhabited

/-- The trace of one rule. -/
structure Outcome where
  /-- the rule as it was supplied -/
  raw : String
  /-- its canonical name -/
  rule : String
  parameters : List String
  dispatch : Dispatch
  deriving DecidableEq, Repr, Inhabited

/-- Something that the log tells. -/
inductive Event where
  | tokenized (name : String) (parameters : List String)
  | unknownRule (rule field : String)
  | droppedDescription (error : RuleError) (field : String)
  | droppedExample (error : RuleError) (field : String)
  | applied (rule field : String) (effects : List String)
  deriving DecidableEq, Repr, Inhabited

/-- The event of taking a rule apart; only rules with a colon are told of. -/
def tokenizedEvents (raw : String) : List Event :=
  if raw.toList.contains ':' then
    let rule := Rule.ofText raw
    [.tokenized rule.name rule.parameters]
  else []

/-- The events of a dropped effect. -/
def Fate.events (tell : RuleError → Event) : Fate → List Event
  | dropped error => [tell error]
  | _ => []

/-- The events of applying a rule. -/
def Application.events (rule field : String) (a : Application) : List Event :=
  a.describing.events (.droppedDescription · field) ++
    a.exemplifying.events (.droppedExample · field) ++ [.applied rule field a.effects.labels]

/-- The entry, the outcome and the events of one more rule. -/
def traceRule (templates : Templates) (setting : Setting) (field raw : String) (e : Entry) :
    Sampler (Entry × Outcome × List Event) := do
  let rule := Rule.canonical raw
  match ← applyRule templates setting field raw e with
  | none =>
    return (e, ⟨raw, rule.name, rule.parameters, .unknown⟩,
      tokenizedEvents raw ++ [.unknownRule rule.name field])
  | some a =>
    return (a.entry, ⟨raw, rule.name, rule.parameters, .applied a.effects a.dropped⟩,
      tokenizedEvents raw ++ a.events rule.name field)

/-- The entry, the outcomes and the events of some rules in order. -/
def traceRules (templates : Templates) (setting : Setting) (field : String) :
    List String → Entry → Sampler (Entry × List Outcome × List Event)
  | [], e => pure (e, [], [])
  | raw :: raws, e => do
    let (e, outcome, events) ← traceRule templates setting field raw e
    let (e, outcomes, later) ← traceRules templates setting field raws e
    return (e, outcome :: outcomes, events ++ later)

end FieldGuide
