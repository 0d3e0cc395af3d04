set_option autoImplicit false

/-!
# Interruptions

A rule that lacks a parameter or misreads one loses an effect and nothing else.  This module names
the few ways in which a whole computation ends without a result.
-/

namespace FieldGuide

/-- Why a computation stopped without a result. -/
inductive Interruption where
  /-- a date phrase cut a name inside a character, had a malformed fraction, left the calendar, or
  asked for a number of more than 32 bits -/
  | phrase
  /-- a date pattern asked for something that its date does not have, or was malformed -/
  | pattern
  /-- a bounded draw refused one word of the stream after another -/
  | exhausted
  deriving DecidableEq, Repr, Inhabited

end FieldGuide
