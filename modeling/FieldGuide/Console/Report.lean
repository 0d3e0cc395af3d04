import FieldGuide.Aggregation
import FieldGuide.Console.Palette
set_option autoImplicit false

/-!
# The report

What the command line shows of a field: its documentation, what every rule did, and how long it
took.  Colours are put around parts of the text and change nothing else.
-/

namespace FieldGuide.Console

/-- A value as the report shows it: texts stand between quotes. -/
def valueText : Example → String
  | .text s => "\"" ++ s ++ "\""
  | other => other.display

/-- The heading of a part of the report. -/
def heading (p : Palette) (title : String) : String := p.gray ("━━━ " ++ title ++ " ━━━")

/-- The lines on the entry of a field. -/
def entryLines (p : Palette) (e : Entry) : List String :=
  ["  " ++ p.dim "type:" ++ " " ++ p.blue ((e.type.map FieldType.name).getD "-") ++ "  " ++
      p.dim "│ required:" ++ " " ++ (if e.required then p.green "yes" else p.dim "no"),
    "  " ++ p.dim "value:" ++ " " ++ p.bold (p.green (valueText e.value))] ++
  (if e.description.isEmpty then ["  " ++ p.dim "no description"] else []) ++
  e.description.map fun line => "  " ++ p.dim "•" ++ " " ++ line

/-- The effects of a rule, or a note that it had none. -/
def summary (p : Palette) (effects : Effects) : String :=
  match effects.labels with
  | [] => p.dim "no effect"
  | labels => " ".intercalate labels

/-- The line on the parameters of a rule, if it has any. -/
def parameterLines (p : Palette) (parameters : List String) : List String :=
  if parameters.isEmpty then []
  else ["      " ++ p.dim "params:" ++ " " ++ p.dim (", ".intercalate parameters)]

/-- The lines on one rule. -/
def outcomeLines (p : Palette) (index : Nat) (o : Outcome) : List String :=
  let number := p.gray ("[" ++ toString index ++ "]")
  match o.dispatch with
  | .unknown =>
    ["  " ++ number ++ " " ++ p.dim o.raw ++ " " ++ p.yellow "unknown, ignored"]
  | .applied effects dropped =>
    ["  " ++ number ++ " " ++ p.blue o.rule ++ " " ++ p.dim "│" ++ " " ++
      p.cyan (summary p effects)] ++
    parameterLines p o.parameters ++
    dropped.map fun error => "      " ++ p.red "✗" ++ " " ++ p.red error.message

/-- The lines on some rules, counted from a number. -/
def outcomesLines (p : Palette) : (start : Nat) → List Outcome → List String
  | _, [] => []
  | start, o :: rest => outcomeLines p start o ++ outcomesLines p (start + 1) rest

/-- The lines on a field. -/
def fieldLines (p : Palette) (elapsed : String) (a : Aggregate) : List String :=
  ["", p.bold (p.cyan ("⚙  " ++ a.field)),
    "  " ++ p.dim ("seed \"" ++ a.seed ++ "\" → " ++ toString a.numericSeed),
    "", heading p "Metadata"] ++
  entryLines p a.entry ++
  ["", heading p "Rules"] ++
  (if a.outcomes.isEmpty then ["  " ++ p.dim "No rules"] else []) ++
  outcomesLines p 0 a.outcomes ++
  ["", heading p "Timing", "  Total: " ++ p.green elapsed]

/-- Lines, each ended by a line break. -/
def unlines (lines : List String) : String := String.join (lines.map (· ++ "\n"))

/-- The report on some fields, with the time that each of them took. -/
def report (p : Palette) (fields : List (Aggregate × String)) : String :=
  unlines (fields.flatMap (fun f => fieldLines p f.2 f.1) ++ [""])

end FieldGuide.Console
