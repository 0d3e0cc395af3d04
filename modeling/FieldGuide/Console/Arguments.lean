import FieldGuide.Calendar.Iso
import FieldGuide.DatePhrase.Reading
set_option autoImplicit false

/-!
# The arguments of the command line

Fields stand as `NAME=RULES`, and options before, between and behind them.  An option takes its
value from the same argument or from the next one.  Arguments are taken in order, and a value is
looked at only when the next option or kind of argument begins, or at the end; so of several
mistakes the one that is met first in this order is told.
-/

namespace FieldGuide.Console

/-- The options with a value. -/
inductive ValueOption where
  | seed
  | reference
  | dialect
  deriving DecidableEq, Repr, Inhabited

/-- The options without a value. -/
inductive Flag where
  | json
  | color
  | noColor
  | verbose
  | help
  | version
  deriving DecidableEq, Repr, Inhabited

/-- An option of either sort. -/
inductive OptionName where
  | valued (option : ValueOption)
  | flag (flag : Flag)
  deriving DecidableEq, Repr, Inhabited

/-- The option with a long name. -/
def optionOfName? (name : String) : Option OptionName :=
  [("seed", .valued .seed), ("reference", .valued .reference), ("dialect", .valued .dialect),
    ("json", .flag .json), ("color", .flag .color), ("no-color", .flag .noColor),
    ("verbose", .flag .verbose), ("help", .flag .help),
    ("version", OptionName.flag .version)].lookup name

/-- The option with a short name. -/
def optionOfLetter? : Char → Option OptionName
  | 's' => some (.valued .seed)
  | 'v' => some (.flag .verbose)
  | 'h' => some (.flag .help)
  | 'V' => some (.flag .version)
  | _ => none

/-- Why arguments are refused. -/
inductive UsageError where
  /-- a value that cannot be read, with the argument that it is for and the reason, if one is
  told -/
  | invalidValue (value argument : String) (reason : Option String)
  | missingValue (option : ValueOption)
  | unexpectedValue (flag : Flag)
  | repeatedOption
  | unknownArgument (argument : String)
  | missingFields
  deriving DecidableEq, Repr, Inhabited

/-- What stops the reading of arguments. -/
inductive Stop where
  | usage (error : UsageError)
  | help
  | version
  deriving DecidableEq, Repr, Inhabited

/-- What has been asked for. -/
structure Request where
  fields : List (String × String) := []
  seed : Option String := none
  reference : Option Calendar.Moment := none
  dialect : Option DatePhrase.Dialect := none
  json : Bool := false
  color : Bool := false
  noColor : Bool := false
  verbosity : Nat := 0
  deriving DecidableEq, Repr, Inhabited

/-- Arguments that have been taken but not looked at. -/
inductive Pending where
  | nothing
  | fields (values : List String)
  /-- an option that waits for its value, or has got it -/
  | option (option : ValueOption) (value : Option String)
  deriving DecidableEq, Repr, Inhabited

/-- A step of the reading. -/
abbrev Step := Except Stop

/-- Stops with a usage error. -/
def refuse {α : Type} (error : UsageError) : Step α := .error (.usage error)

/-! ## Values -/

/-- The value name of the fields. -/
def fieldsArgument : String := "<NAME=RULES>..."

/-- An option with its value, as errors name it. -/
def ValueOption.argument : ValueOption → String
  | seed => "--seed <SEED>"
  | reference => "--reference <REFERENCE>"
  | dialect => "--dialect <DIALECT>"

/-- A field: the text before the first equals sign, without surrounding spaces, is its name, and the
text behind the sign its rules. -/
def readField (value : String) : Step (String × String) :=
  let cs := value.toList
  let name := Text.trim (cs.takeWhile (· ≠ '='))
  match cs.dropWhile (· ≠ '='), name with
  | _ :: rules, _ :: _ => .ok (String.ofList name, String.ofList rules)
  | _, _ =>
    refuse (.invalidValue value fieldsArgument
      (some ("expected NAME=RULES, got '" ++ value ++ "'")))

/-- A reference time. -/
def readReference (value : String) : Step Calendar.Moment :=
  match Calendar.Iso.joined? value.toList with
  | some m => .ok m
  | none =>
    refuse (.invalidValue value ValueOption.reference.argument
      (some ("invalid reference '" ++ value ++ "' (expected YYYY-MM-DDTHH:MM:SS)")))

/-- A dialect. -/
def readDialect (value : String) : Step DatePhrase.Dialect :=
  if value = "uk" then .ok .uk
  else if value = "us" then .ok .us
  else if value = "" then refuse (.missingValue .dialect)
  else refuse (.invalidValue value ValueOption.dialect.argument none)

/-! ## Reading -/

/-- Gives an option its value; no option has two. -/
def setValue (r : Request) (option : ValueOption) (value : String) : Step Request :=
  match option with
  | .seed =>
    if r.seed.isSome then refuse .repeatedOption else .ok { r with seed := some value }
  | .reference =>
    if r.reference.isSome then refuse .repeatedOption
    else do return { r with reference := some (← readReference value) }
  | .dialect =>
    if r.dialect.isSome then refuse .repeatedOption
    else do return { r with dialect := some (← readDialect value) }

/-- Sets an option without a value.  Asking for colour and asking for none take each other back. -/
def setFlag (r : Request) : Flag → Step Request
  | .json => if r.json then refuse .repeatedOption else .ok { r with json := true }
  | .color =>
    if r.color then refuse .repeatedOption else .ok { r with color := true, noColor := false }
  | .noColor =>
    if r.noColor then refuse .repeatedOption else .ok { r with noColor := true, color := false }
  | .verbose => .ok { r with verbosity := r.verbosity + 1 }
  | .help => .error .help
  | .version => .error .version

/-- Looks at the arguments that have been put off. -/
def settle (r : Request) : Pending → Step Request
  | .nothing => .ok r
  | .fields values => do return { r with fields := r.fields ++ (← values.mapM readField) }
  | .option option none => refuse (.missingValue option)
  | .option option (some value) => setValue r option value

/-- What has been read, and what has been put off. -/
abbrev Progress := Request × Pending

/-- An argument of the form `--name` or `--name=value`, without its hyphens. -/
def readLong (argument : String) (text : List Char) (p : Progress) : Step Progress :=
  let name := String.ofList (text.takeWhile (· ≠ '='))
  let attached := (text.dropWhile (· ≠ '=')).tail?
  match optionOfName? name, attached with
  | none, _ => refuse (.unknownArgument argument)
  | some (.valued option), none => do return (← settle p.1 p.2, .option option none)
  | some (.valued option), some value => do
    return (← setValue (← settle p.1 p.2) option (String.ofList value), .nothing)
  | some (.flag flag), none => do return (← setFlag (← settle p.1 p.2) flag, .nothing)
  | some (.flag flag), some _ => refuse (.unexpectedValue flag)

/-- The letters of an argument with one hyphen.  A letter with a value takes the rest of the
argument, an equals sign in front of it left out. -/
def readLetters (argument : String) : List Char → Progress → Step Progress
  | [], p => .ok p
  | c :: cs, p =>
    match optionOfLetter? c with
    | none => refuse (.unknownArgument argument)
    | some (.flag flag) => do
      readLetters argument cs (← setFlag (← settle p.1 p.2) flag, .nothing)
    | some (.valued option) =>
      match cs with
      | [] => do return (← settle p.1 p.2, .option option none)
      | '=' :: value => do
        return (← setValue (← settle p.1 p.2) option (String.ofList value), .nothing)
      | value => do
        return (← setValue (← settle p.1 p.2) option (String.ofList value), .nothing)

/-- An argument that is no option: it joins the fields before it. -/
def readFieldArgument (argument : String) (p : Progress) : Step Progress :=
  match p.2 with
  | .fields values => .ok (p.1, .fields (values ++ [argument]))
  | pending => do return (← settle p.1 pending, .fields [argument])

/-- An argument that is the value of a waiting option, or else a field. -/
def readPlain (argument : String) (p : Progress) : Step Progress :=
  match p.2 with
  | .option option none => .ok (p.1, .option option (some argument))
  | _ => readFieldArgument argument p

/-- All arguments; behind two lone hyphens there are only fields. -/
def readFrom : List String → (fieldsOnly : Bool) → Progress → Step Progress
  | [], _, p => .ok p
  | argument :: rest, true, p => do readFrom rest true (← readFieldArgument argument p)
  | argument :: rest, false, p =>
    match argument.toList with
    | ['-', '-'] => readFrom rest true p
    | '-' :: '-' :: text => do readFrom rest false (← readLong argument text p)
    | '-' :: c :: cs => do readFrom rest false (← readLetters argument (c :: cs) p)
    | _ => do readFrom rest false (← readPlain argument p)

/-- Reads the arguments of the command line. -/
def Request.ofArguments (arguments : List String) : Step Request := do
  let p ← readFrom arguments false ({}, .nothing)
  let r ← settle p.1 p.2
  if r.fields.isEmpty then refuse .missingFields else return r

end FieldGuide.Console
