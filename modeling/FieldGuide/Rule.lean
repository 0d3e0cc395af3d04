import FieldGuide.Row
import FieldGuide.Text.Space
import FieldGuide.Text.LowerCase
set_option autoImplicit false

/-!
# Rules as text

A rule is written `name` or `name:parameters`, and the rules of a field either as one string with
pipes between them or as a list.  The name is read without its surrounding spaces and in lower
case; the parameters are a comma-separated row, except that a regular expression is taken whole,
since it may hold commas and quotes of its own.
-/

namespace FieldGuide

/-- A rule taken apart: its name in lower case and its parameters in order. -/
structure Rule where
  name : String
  parameters : List String
  deriving DecidableEq, Repr, Inhabited

namespace Rule

/-- The rule whose parameter text is not a row. -/
def pattern : String := "regex"

/-- A rule name without surrounding spaces, in lower case. -/
def nameOfText (text : List Char) : String := String.ofList (Text.lower (Text.trim text))

/-- The parts of a text before and after its first colon, if it has one. -/
def cutAtColon? (text : List Char) : Option (List Char × List Char) :=
  match text.dropWhile (· ≠ ':') with
  | [] => none
  | _ :: rest => some (text.takeWhile (· ≠ ':'), rest)

/-- The parameters of the rule `name` in the text behind its colon. -/
def parametersOfText (name : String) (text : List Char) : List String :=
  if name = pattern then [String.ofList text] else (Row.read text).map String.ofList

/-- Reads one rule. -/
def ofText (raw : String) : Rule :=
  match cutAtColon? raw.toList with
  | none => ⟨nameOfText raw.toList, []⟩
  | some (before, after) =>
    let name := nameOfText before
    ⟨name, parametersOfText name after⟩

/-- The name under which a rule is known: two short names stand for longer ones. -/
def canonicalName (name : String) : String :=
  if name = "int" then "integer" else if name = "bool" then "boolean" else name

end Rule

/-- The rules of one field, as they are supplied. -/
inductive RuleText where
  /-- one string with pipes between the rules -/
  | piped (text : String)
  /-- rules that stand apart already -/
  | listed (rules : List String)
  deriving DecidableEq, Repr, Inhabited

namespace RuleText

/-- All segments of a text between pipes. -/
def segments (text : String) : List String :=
  (text.toList.splitOn '|').map String.ofList

/-- The rules between pipes; segments of nothing but space are no rules. -/
def splitPipes (text : String) : List String :=
  (segments text).filter fun s => !Text.isBlank s.toList

/-- The rules in the order of their declaration. -/
def rules : RuleText → List String
  | piped text => splitPipes text
  | listed rules => rules

end RuleText

end FieldGuide
