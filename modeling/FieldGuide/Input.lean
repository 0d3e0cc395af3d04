import FieldGuide.Entry
import FieldGuide.RuleError
import FieldGuide.Interruption
import FieldGuide.Number.Numeral
import FieldGuide.Calendar.Iso
import FieldGuide.DatePhrase.Resolution
set_option autoImplicit false

/-!
# What a rule can read

The effects of a rule read its parameters, the name of its field, the type that the field has by
then, and the reference time against which dates are understood.  Reading a parameter can fail, and
then the effect is dropped.
-/

namespace FieldGuide

/-- What dates are read against. -/
structure Setting where
  /-- the present, for relative dates -/
  reference : Calendar.Moment
  /-- how ambiguous dates are understood -/
  dialect : DatePhrase.Dialect := .uk
  deriving DecidableEq, Repr, Inhabited

/-- A fixed present, so that documentation does not change from one day to the next. -/
def Setting.fixed : Setting where
  reference :=
    { date := ⟨2013, 2, 12, by decide⟩
      clock := ⟨16200, 0, by decide, Calendar.Clock.midnight.nanos_lt⟩ }

/-- Everything that the effects of one rule can read. -/
structure Input where
  /-- the canonical name of the rule -/
  rule : String
  /-- the name of the field -/
  field : String
  parameters : List String
  /-- the type of the field, after what the rule itself did to it -/
  type : Option FieldType
  setting : Setting
  deriving Repr

/-- A part of an effect: it yields a value, is dropped for a reason, or interrupts everything. -/
abbrev Attempt := ExceptT RuleError (Except Interruption)

/-- Stops everything. -/
def Attempt.interrupt {α : Type} (cause : Interruption) : Attempt α := ExceptT.mk (.error cause)

namespace Input

/-- The parameter with an index. -/
def parameter (i : Input) (index : Nat) : Except RuleError String :=
  match i.parameters[index]? with
  | some p => .ok p
  | none => .error (.missingParameter i.rule index)

/-- All parameters, of which there has to be one. -/
def list (i : Input) : Except RuleError (List String) :=
  match i.parameters with
  | [] => .error (.emptyList i.rule)
  | ps => .ok ps

/-- The parameter with an index, read as a whole number. -/
def integer (i : Input) (index : Nat) : Except RuleError Int64 := do
  let raw ← i.parameter index
  match Number.integer? (Text.trim raw.toList) with
  | some n => return n
  | none => throw (.invalidNumber i.rule raw)

/-- A parameter read as a date: in figures, else as a phrase. -/
def moment (i : Input) (raw : String) : Attempt Calendar.Moment :=
  let text := Text.trim raw.toList
  match Calendar.Iso.read? text with
  | some m => pure m
  | none =>
    match DatePhrase.moment i.setting.dialect i.setting.reference text with
    | .ok m => pure m
    | .error .unreadable => throw (.invalidDate i.rule raw)
    | .error .broken => Attempt.interrupt .phrase

end Input

end FieldGuide
