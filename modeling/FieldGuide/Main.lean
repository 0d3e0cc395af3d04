import FieldGuide.Console.Session
import FieldGuide.Console.Usage
set_option autoImplicit false

/-!
# The command line

Reads the arguments and the environment, measures the time that every field takes, and prints what
the request asks for.  The log goes to standard error.  The exit code is 0, or 1 when the
documentation was interrupted, or 2 when the arguments were refused.

A run takes the filter of its log that the environment gives.  The program itself reads no such
filter, because descriptions of filters are the language of a package for logging that it does not
have: it runs as if the variable for it were not set, and the verbosity decides.
-/

namespace FieldGuide.Console

/-- A number of nanoseconds in the greatest unit of which there is one, with three decimals at
most. -/
def elapsedText (nanos : Nat) : String :=
  let decimals (thousandths : Nat) : String :=
    let digits := (1000 + thousandths % 1000).repr.toList.drop 1
    match (digits.reverse.dropWhile (· = '0')).reverse with
    | [] => toString (thousandths / 1000)
    | figures => toString (thousandths / 1000) ++ "." ++ String.ofList figures
  if nanos < 1000 then toString nanos ++ "ns"
  else if nanos < 1000000 then decimals nanos ++ "µs"
  else if nanos < 1000000000 then decimals (nanos / 1000) ++ "ms"
  else decimals (nanos / 1000000) ++ "s"

/-- How the program is called. -/
def usage : String :=
  "Usage: fieldguide [OPTIONS] <NAME=RULES>...\n\n" ++
  "  -s, --seed <SEED>            Seed shared by all fields [env: " ++ seedVariable ++ "]\n" ++
  "      --reference <REFERENCE>  Reference time, as YYYY-MM-DDTHH:MM:SS\n" ++
  "      --dialect <DIALECT>      How to read ambiguous dates: uk or us\n" ++
  "      --json                   Print the parameters as JSON\n" ++
  "      --color                  Force colors\n" ++
  "      --no-color               Disable colors\n" ++
  "  -v, --verbose                Log unknown rules and dropped effects, or every rule (-vv)\n" ++
  "  -h, --help                   Print help\n" ++
  "  -V, --version                Print version\n"

/-- The version of the program. -/
def versionLine : String := "fieldguide 0.1.0"

/-- Documents the fields of a request one after the other and times them. -/
def timeFields (r : Request) (environment : Option String) (override : Option Filter) :
    List (String × String) → IO (Except Interruption (List (Aggregate × String)))
  | [] => return .ok []
  | field :: rest => do
    let start ← IO.monoNanosNow
    match r.aggregateField environment field with
    | .error cause => return .error cause
    | .ok a =>
      let stop ← IO.monoNanosNow
      for line in logOf (.chosen override r.verbosity) a do IO.eprintln line
      match ← timeFields r environment override rest with
      | .error cause => return .error cause
      | .ok later => return .ok ((a, elapsedText (stop - start)) :: later)

/-- Carries out a request, with the filter that the environment gives for the log. -/
def Request.run (r : Request) (override : Option Filter) : IO UInt32 := do
  let environment ← IO.getEnv seedVariable
  let out ← IO.getStdout
  match ← timeFields r environment override r.fields with
  | .error _ =>
    IO.eprintln "error: a date could not be evaluated"
    return 1
  | .ok fields =>
    out.putStr (r.output (← out.isTty) fields)
    return 0

end FieldGuide.Console

open FieldGuide.Console in
/-- Runs the command line. -/
def main (arguments : List String) : IO UInt32 := do
  match Request.ofArguments arguments with
  | .ok request => request.run none
  | .error .help =>
    IO.print usage
    return 0
  | .error .version =>
    IO.println versionLine
    return 0
  | .error (.usage error) =>
    let terminal ← (← IO.getStderr).isTty
    IO.eprint (if terminal then error.message else plain error.message)
    return 2
