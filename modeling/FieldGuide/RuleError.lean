set_option autoImplicit false

/-!
# Why an effect is dropped

A rule that lacks a parameter or cannot read one loses the effect that needed it.
-/

namespace FieldGuide

/-- The reason why an effect of the rule `rule` was dropped. -/
inductive RuleError where
  | missingParameter (rule : String) (index : Nat)
  | invalidNumber (rule value : String)
  | invalidDate (rule value : String)
  /-- the rule needs at least one parameter and has none -/
  | emptyList (rule : String)
  deriving DecidableEq, Repr, Inhabited

namespace RuleError

/-- The rule that lost an effect. -/
def rule : RuleError → String
  | missingParameter rule _ => rule
  | invalidNumber rule _ => rule
  | invalidDate rule _ => rule
  | emptyList rule => rule

/-- A text between backticks. -/
def ticked (text : String) : String := "`" ++ text ++ "`"

/-- The reason in words. -/
def message : RuleError → String
  | missingParameter rule index =>
    "rule " ++ ticked rule ++ " is missing parameter #" ++ toString index
  | invalidNumber rule value => "rule " ++ ticked rule ++ " expects a number, got " ++ ticked value
  | invalidDate rule value => "rule " ++ ticked rule ++ " expects a date, got " ++ ticked value
  | emptyList rule => "rule " ++ ticked rule ++ " expects at least one value"

end RuleError

end FieldGuide
