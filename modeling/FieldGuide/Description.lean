import FieldGuide.Kind
import FieldGuide.Input
import FieldGuide.Wording
import FieldGuide.Noun
import FieldGuide.Calendar.DateLetters
set_option autoImplicit false

/-!
# Arguments of descriptions

The arguments that a rule puts into the template of its description.
-/

namespace FieldGuide

/-- All of some values as one phrase, with a link before the last. -/
def phraseOf (link : String) (items : List String) : String :=
  String.ofList (Wording.enumerate ", ".toList link.toList (items.map String.toList))

/-- Names and values in turn as one phrase. -/
def conditionsOf (items : List String) : String :=
  String.ofList (Wording.conditions (items.map String.toList))

/-- A moment as a bound, in the documented layout. -/
def boundText (m : Calendar.Moment) : Attempt String :=
  match Calendar.DateLetters.boundText? m with
  | some text => pure text
  | none => Attempt.interrupt .pattern

/-- The arguments of a description. -/
def Describing.arguments (i : Input) : Describing → Attempt (List String)
  | bare => pure []
  | first => do return [← i.parameter 0]
  | pair => do return [← i.parameter 0, ← i.parameter 1]
  | anyOf => do return [phraseOf " or " (← i.list)]
  | allOf => do return [phraseOf " and " (← i.list)]
  | conditions => do return [conditionsOf (← i.list)]
  | bound => do return [← boundText (← i.moment (← i.parameter 0))]
  | tableAndColumn => do
    let table := Noun.singular (← i.parameter 0)
    return [table, i.parameters[1]?.getD i.field]

end FieldGuide
