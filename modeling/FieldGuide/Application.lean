import FieldGuide.Rule
import FieldGuide.Effects
import FieldGuide.Catalogue
import FieldGuide.ExampleChoice
set_option autoImplicit false

/-!
# Applying one rule

A rule acts on the entry of its field in a fixed order: the mark that the field is required, the
type, the description fragment, the example value.  A description or an example that cannot be
formed is dropped, and the rule keeps its other effects.
-/

namespace FieldGuide

/-- What became of an effect that a rule may have. -/
inductive Fate where
  /-- the rule does not have the effect here -/
  | absent
  | done
  | dropped (error : RuleError)
  deriving DecidableEq, Repr, Inhabited

/-- The error of a dropped effect. -/
def Fate.errors : Fate → List RuleError
  | dropped error => [error]
  | _ => []

/-- The entry after one rule, and what the rule did to it. -/
structure Application where
  entry : Entry
  effects : Effects
  /-- the fate of the description -/
  describing : Fate
  /-- the fate of the example value -/
  exemplifying : Fate
  deriving DecidableEq, Repr, Inhabited

namespace Application

/-- The errors of the effects that were dropped, the description's before the example's. -/
def dropped (a : Application) : List RuleError := a.describing.errors ++ a.exemplifying.errors

end Application

/-- The type of a field after a rule. -/
def Typing.apply (old : Option FieldType) : Typing → Option FieldType
  | keep => old
  | force type => some type
  | fallback type => some (old.getD type)

/-- The rule sets the type in any case. -/
def Typing.isForce : Typing → Bool
  | force _ => true
  | _ => false

/-- The rule sets a type that is not set. -/
def Typing.isFallback : Typing → Bool
  | fallback _ => true
  | _ => false

/-- Adds the description fragment of a rule. -/
def addDescription (templates : Templates) (i : Input) (describing : Option Describing)
    (e : Entry) : Except Interruption (Entry × Fate) := do
  match describing with
  | none => return (e, .absent)
  | some d =>
    match ← (d.arguments i).run with
    | .ok args =>
      let fragment := Template.fill (templates i.rule) args
      return ({ e with description := e.description ++ [fragment] }, .done)
    | .error error => return (e, .dropped error)

/-- Sets the example value of a rule. -/
def setExample (i : Input) (exemplifying : Option Exemplifying) (e : Entry) :
    Sampler (Entry × Fate) := do
  match exemplifying with
  | none => return (e, .absent)
  | some x =>
    match ← (x.choose i).run with
    | .ok (some value) => return ({ e with value := value }, .done)
    | .ok none => return (e, .absent)
    | .error error => return (e, .dropped error)

/-- Applies a rule of a known kind: first the mark that the field is required, then the type, then
the description, and the example value last, which can see the type. -/
def Kind.apply (templates : Templates) (setting : Setting) (field : String) (kind : Kind)
    (parameters : List String) (e : Entry) : Sampler Application := do
  let spec := kind.spec
  let type := spec.typing.apply e.type
  let marked := { e with required := e.required || spec.required, type := type }
  let i : Input := ⟨kind.name, field, parameters, type, setting⟩
  let (described, describing) ← StateT.lift (addDescription templates i spec.describing marked)
  let (shown, exemplifying) ← setExample i spec.exemplifying described
  return {
    entry := shown
    effects := {
      required := spec.required
      forcesType := spec.typing.isForce
      defaultsType := spec.typing.isFallback && e.type.isNone
      describes := describing == .done
      exemplifies := exemplifying == .done }
    describing
    exemplifying }

/-- The canonical name and the parameters of a rule. -/
def Rule.canonical (raw : String) : Rule :=
  let rule := Rule.ofText raw
  ⟨Rule.canonicalName rule.name, rule.parameters⟩

/-- Applies one rule; rules of an unknown name do nothing. -/
def applyRule (templates : Templates) (setting : Setting) (field raw : String) (e : Entry) :
    Sampler (Option Application) := do
  let rule := Rule.canonical raw
  match Kind.ofName? rule.name with
  | none => return none
  | some kind => return some (← kind.apply templates setting field rule.parameters e)

end FieldGuide
