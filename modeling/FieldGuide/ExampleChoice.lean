import FieldGuide.Description
import FieldGuide.Sample
set_option autoImplicit false

/-!
# Choosing example values

The example value that a rule chooses, if it chooses one.  Parameters are read before anything is
drawn, so an effect that is dropped leaves the stream where it was.
-/

namespace FieldGuide

/-- The choice of an example: it draws from the stream, and may be dropped or interrupted. -/
abbrev Choice := ExceptT RuleError Sampler

/-- An attempt that draws nothing. -/
def Attempt.toChoice {α : Type} (a : Attempt α) : Choice α :=
  ExceptT.mk (StateT.lift a.run)

/-- Fewer digits than this are shown as a number, more as a text. -/
def digitsAsText : Int64 := 9

/-- The longest run of digits that is shown. -/
def mostDigits : Int64 := 255

/-- The field holds numbers. -/
def Input.isNumeric (i : Input) : Bool := (i.type.map FieldType.isNumeric).getD false

/-- An example of exactly as many digits as the first parameter says. -/
def chooseDigits (i : Input) : Choice Example := do
  let count ← i.integer 0
  if count < 1 ∨ mostDigits < count then
    throw (.invalidNumber i.rule (toString count.toInt))
  else if count < digitsAsText then
    return .number (← Sampler.numberOfDigits (some count.toInt.toNat) true)
  else return .text (String.ofList (← Sampler.digitString count.toInt.toNat))

/-- The date of the first parameter, some days later. -/
def dayFromBound (i : Input) (days : Int) : Attempt Example := do
  let raw ← i.parameter 0
  match (← i.moment raw).addDays? days with
  | some m => return .text (← boundText m)
  | none => throw (.invalidDate i.rule raw)

/-- The reference time in the format of the first parameter. -/
def referenceTime (i : Input) : Attempt Example := do
  let format ← i.parameter 0
  match Calendar.DateLetters.format? format.toList i.setting.reference with
  | some text => return .text (String.ofList text)
  | none => Attempt.interrupt .pattern

/-- The pattern of a date that is drawn as an example. -/
def datePattern : String := "%Y-%m-%d"

/-- The example value that is chosen, if there is one. -/
def Exemplifying.choose (i : Input) : Exemplifying → Choice (Option Example)
  | fixed value => return some value
  | word => do return some (.text (← Sampler.word))
  | number => do return some (.number (← Sampler.numberOfDigits none false))
  | date => do
    match ← Sampler.dateText? datePattern with
    | some text => return some (.text text)
    | none => Attempt.toChoice (Attempt.interrupt .pattern)
  | email => do return some (.text (← Sampler.email))
  | url => do return some (.text (← Sampler.url))
  | address => do return some (.text (← Sampler.address))
  | atLeast => do
    if i.isNumeric then
      let low ← i.integer 0
      return some (.number (← Sampler.between low (max Sampler.greatest low)))
    else return none
  | atMost => do
    if i.isNumeric then
      let high ← i.integer 0
      return some (.number (← Sampler.between 0 high))
    else return none
  | within => do
    let a ← i.integer 0
    let b ← i.integer 1
    return some (.number (← Sampler.between a b))
  | digits => do return some (← chooseDigits i)
  | dayFromBound days => do return some (← Attempt.toChoice (FieldGuide.dayFromBound i days))
  | referenceTime => do return some (← Attempt.toChoice (FieldGuide.referenceTime i))
  | timezone => do return some (.text (← Sampler.timezone))
  | member => do return (← Sampler.element (← i.list)).map .text

end FieldGuide
