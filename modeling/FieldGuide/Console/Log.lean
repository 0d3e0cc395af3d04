import FieldGuide.Aggregation
import FieldGuide.Text.Quoted
set_option autoImplicit false

/-!
# The log

Every event has a level, and a filter says which events the log shows.  The verbosity stands for a
filter: it shows nothing, the events about unknown rules and dropped effects, or all.  The
environment can give another filter, and then the verbosity does not matter.  A line names the field
and the seed before the event.
-/

namespace FieldGuide.Console

/-- How much is told. -/
inductive Level where
  /-- unknown rules and dropped effects -/
  | debug
  /-- every rule -/
  | trace
  deriving DecidableEq, Repr, Inhabited

/-- A level as it stands in front of a line. -/
def Level.label : Level → String
  | debug => "DEBUG"
  | trace => "TRACE"

/-- A log of the given verbosity, which nothing overrides, shows events of the level. -/
def Level.shownAt (verbosity : Nat) : Level → Bool
  | debug => 1 ≤ verbosity
  | trace => 2 ≤ verbosity

end FieldGuide.Console

namespace FieldGuide.Event

open Console

/-- The level of an event. -/
def level : Event → Level
  | tokenized .. => .trace
  | unknownRule .. => .debug
  | droppedDescription .. => .debug
  | droppedExample .. => .debug
  | applied .. => .trace

/-- An event in words. -/
def text : Event → String
  | tokenized name parameters =>
    "tokenized rule rule=" ++ name ++ " parameters=" ++ Text.quotedList parameters
  | unknownRule rule field =>
    "ignoring unknown rule rule=" ++ Text.quoted rule ++ " field=" ++ Text.quoted field
  | droppedDescription error field =>
    "dropping description err=" ++ error.message ++ " field=" ++ Text.quoted field
  | droppedExample error field =>
    "dropping example value err=" ++ error.message ++ " field=" ++ Text.quoted field
  | applied rule field effects =>
    "applied rule rule=" ++ Text.quoted rule ++ " field=" ++ Text.quoted field ++ " effects=" ++
      Text.quotedList effects

end FieldGuide.Event

namespace FieldGuide.Console

/-- Which events a log shows. -/
structure Filter where
  /-- this event is shown for the field and the seed -/
  shows : (field seed : String) → Event → Bool
  /-- the events of the field and the seed are shown with their names -/
  names : (field seed : String) → Bool

/-- The filter of a verbosity.  A field is named as if that were an event of the first level. -/
def Filter.ofVerbosity (verbosity : Nat) : Filter where
  shows _ _ event := event.level.shownAt verbosity
  names _ _ := Level.debug.shownAt verbosity

/-- The filter of a log.  The environment overrides the verbosity where its variable for the log is
set to something that describes a filter.  The language of such descriptions belongs to the package
that writes the log, so that a filter of the environment is any filter here. -/
def Filter.chosen (override : Option Filter) (verbosity : Nat) : Filter :=
  override.getD (.ofVerbosity verbosity)

/-- The text that the log has for an event of the aggregation of a field. -/
def logText (field seed : String) (event : Event) : String :=
  event.level.label ++ " aggregate\x7bfield=" ++ Text.quoted field ++ " seed=" ++
    Text.quoted seed ++ "\x7d: " ++ event.text

/-- The text of an event, without the field and the seed where they are not to be named. -/
def Filter.text (f : Filter) (field seed : String) (event : Event) : String :=
  if f.names field seed then logText field seed event else event.level.label ++ " " ++ event.text

/-- The texts that the log has for a field. -/
def logOf (f : Filter) (a : Aggregate) : List String :=
  (a.events.filter (f.shows a.field a.seed)).map (f.text a.field a.seed)

end FieldGuide.Console
