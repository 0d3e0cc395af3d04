import FieldGuide.Calendar.Moment
import FieldGuide.Number.Figures
import FieldGuide.Text.Space
set_option autoImplicit false

/-!
# Dates in figures

Three layouts are read: a date and a time with spaces between them or none, a date and a time with
a `T` between them, and a date alone, which stands for its first moment.  Every number may have
spaces in front of it.  A year has four figures at most, or a sign and any number of figures; all
other numbers have two figures at most.
-/

namespace FieldGuide.Calendar.Iso

/-- A reader takes a part off the front of a text, or fails. -/
abbrev Reader := StateT (List Char) Option

/-- Skips spaces. -/
def skipSpaces : Reader Unit := fun cs => some ((), Text.trimStart cs)

/-- Reads one given character. -/
def char (c : Char) : Reader Unit
  | [] => none
  | d :: cs => if d = c then some ((), cs) else none

/-- Reads as many figures as there are, one at least. -/
def anyDigits : Reader Nat := fun cs =>
  match cs.takeWhile Char.isDigit with
  | [] => none
  | figures => some (Number.ofFigures figures, cs.dropWhile Char.isDigit)

/-- Reads as many figures as there are, one at least and `width` at most. -/
def digits (width : Nat) : Reader Nat := fun cs =>
  match (cs.take width).takeWhile Char.isDigit with
  | [] => none
  | figures => some (Number.ofFigures figures, cs.drop figures.length)

/-- Reads a number of two figures at most. -/
def short : Reader Nat := do skipSpaces; digits 2

/-- Reads a year. -/
def year : Reader Int := do
  skipSpaces
  match ← get with
  | '-' :: rest => set rest; return - (← anyDigits : Nat)
  | '+' :: rest => set rest; return (← anyDigits : Nat)
  | _ => return (← digits 4 : Nat)

/-- Reads a date. -/
def date : Reader Date := do
  let y ← year
  char '-'
  let m ← short
  char '-'
  let d ← short
  StateT.lift (Date.of? y m d)

/-- Reads a time of day to the second. -/
def clock : Reader Clock := do
  let h ← short
  char ':'
  let m ← short
  char ':'
  let s ← short
  StateT.lift (Clock.ofLeap? h m s 0)

/-- Reads a date and a time of day with something between them. -/
def moment (between : Reader Unit) : Reader Moment := do
  let d ← date
  between
  let c ← clock
  return ⟨d, c⟩

/-- What a reader makes of a text that it uses up. -/
def all? {α : Type} (read : Reader α) (cs : List Char) : Option α :=
  match read cs with
  | some (value, []) => some value
  | _ => none

/-- A date and a time with spaces or nothing between them. -/
def spaced? (cs : List Char) : Option Moment := all? (moment skipSpaces) cs

/-- A date and a time with a `T` between them. -/
def joined? (cs : List Char) : Option Moment := all? (moment (char 'T')) cs

/-- A date alone. -/
def dateOnly? (cs : List Char) : Option Moment := (all? date cs).map Moment.ofDate

/-- The moment that a text names in one of the three layouts. -/
def read? (cs : List Char) : Option Moment :=
  spaced? cs <|> joined? cs <|> dateOnly? cs

end FieldGuide.Calendar.Iso
