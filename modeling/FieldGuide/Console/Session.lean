import FieldGuide.Console.Arguments
import FieldGuide.Console.Log
import FieldGuide.Console.Report
import FieldGuide.Json
set_option autoImplicit false

/-!
# A run of the command line

The fields of a request are documented in order with one seed.  What is shown is the report on every
field, or the parameters as JSON; the log goes its own way and changes nothing that is shown.
-/

namespace FieldGuide.Console

/-- The seed where neither the arguments nor the environment give one. -/
def defaultSeed : String := "ruledoc"

/-- The variable of the environment that can give a seed. -/
def seedVariable : String := "RULEDOC_SEED"

/-- The seed of a request: its own, or the one of the environment, or the usual one. -/
def Request.seedText (r : Request) (environment : Option String) : String :=
  (r.seed <|> environment).getD defaultSeed

/-- What dates are read against in a request. -/
def Request.setting (r : Request) : Setting :=
  ⟨r.reference.getD Setting.fixed.reference, r.dialect.getD .uk⟩

/-- Colours are shown where they are asked for, or on a terminal, unless they are refused. -/
def Request.palette (r : Request) (terminal : Bool) : Palette :=
  ⟨!r.noColor && (r.color || terminal)⟩

/-- Documents one field of a request. -/
def Request.aggregateField (r : Request) (environment : Option String) (field : String × String) :
    Except Interruption Aggregate :=
  aggregate Catalogue.bundled.template r.setting field.1 (RuleText.piped field.2).rules
    (r.seedText environment)

/-- Documents the fields of a request. -/
def Request.aggregates (r : Request) (environment : Option String) :
    Except Interruption (List Aggregate) :=
  r.fields.mapM (r.aggregateField environment)

/-- The documented parameters of some fields. -/
def parametersOf (fields : List Aggregate) : Parameters :=
  fields.foldl (fun p a => p.insert a.field a.entry) Parameters.empty

/-- What a request shows of its fields, each with the time that it took. -/
def Request.output (r : Request) (terminal : Bool) (fields : List (Aggregate × String)) : String :=
  if r.json then (parametersOf (fields.map (·.1))).toJson.write .pretty ++ "\n"
  else report (r.palette terminal) fields

/-- The log of a request, which a filter of the environment overrides. -/
def Request.log (r : Request) (fields : List Aggregate) (override : Option Filter := none) :
    List String :=
  fields.flatMap (logOf (.chosen override r.verbosity))

end FieldGuide.Console
