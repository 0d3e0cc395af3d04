import FieldGuide.Console.Arguments
import FieldGuide.Console.EscapeSequence
import FieldGuide.Console.Palette
set_option autoImplicit false

/-!
# Messages about arguments

What is said of arguments that are refused.  The message is written for a terminal; elsewhere its
escape sequences are left out, and with them those in the arguments that it quotes.
-/

namespace FieldGuide.Console

/-- The styles of messages. -/
def messagePalette : Palette := ⟨true⟩

/-- A text between single quotes, in a style. -/
def quotedIn (style : Palette → String → String) (text : String) : String :=
  "'" ++ style messagePalette text ++ "'"

/-- The name of an option without a value, as it is written. -/
def Flag.argument : Flag → String
  | json => "--json"
  | color => "--color"
  | noColor => "--no-color"
  | verbose => "--verbose"
  | help => "--help"
  | version => "--version"

/-- A usage error in words. -/
def UsageError.words : UsageError → String
  | invalidValue value argument reason =>
    "invalid value " ++ quotedIn Palette.yellow value ++
      " for " ++ quotedIn Palette.bold argument ++ ((reason.map (": " ++ ·)).getD "")
  | missingValue option =>
    "a value is required for " ++ quotedIn Palette.green option.argument ++ " but none was supplied"
  | unexpectedValue flag => "unexpected value for " ++ quotedIn Palette.yellow flag.argument
  | repeatedOption => "an option cannot be used multiple times"
  | unknownArgument argument =>
    "unexpected argument " ++ quotedIn Palette.yellow argument ++ " found"
  | missingFields => "the following required arguments were not provided:\n  " ++ fieldsArgument

/-- The message for a usage error, with its styles. -/
def UsageError.message (e : UsageError) : String :=
  messagePalette.bold (messagePalette.red "error:") ++ " " ++ e.words ++
    "\n\nFor more information, try " ++ quotedIn Palette.bold "--help" ++ ".\n"

/-- The first line of the message for a value that cannot be read, without its styles. -/
def UsageError.invalidLine? (e : UsageError) : Option String :=
  match e with
  | invalidValue .. => some (firstLine (plain e.message))
  | _ => none

end FieldGuide.Console
