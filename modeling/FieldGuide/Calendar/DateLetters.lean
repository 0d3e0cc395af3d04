import FieldGuide.Calendar.Pattern
set_option autoImplicit false

/-!
# Date letters

The format letters of PHP's `date` function, in which a single letter stands for a part of a date.
A format is turned into a pattern for one moment: a letter that has a pattern of its own becomes
it, and everything else becomes literal text, in which percent signs are doubled.
-/

namespace FieldGuide.Calendar.DateLetters

/-- The pattern that a letter stands for, whatever the moment. -/
def pattern? : Char → Option String
  | 'd' => some "%d"
  | 'D' => some "%a"
  | 'j' => some "%-d"
  | 'l' => some "%A"
  | 'N' => some "%u"
  | 'w' => some "%w"
  | 'W' => some "%V"
  | 'F' => some "%B"
  | 'm' => some "%m"
  | 'M' => some "%b"
  | 'n' => some "%-m"
  | 'o' => some "%G"
  | 'Y' => some "%Y"
  | 'y' => some "%y"
  | 'a' => some "%P"
  | 'A' => some "%p"
  | 'g' => some "%-I"
  | 'G' => some "%-H"
  | 'h' => some "%I"
  | 'H' => some "%H"
  | 'i' => some "%M"
  | 's' => some "%S"
  | 'u' => some "%6f"
  | 'v' => some "%3f"
  | 'U' => some "%s"
  | 'c' => some "%Y-%m-%dT%H:%M:%S+00:00"
  | 'r' => some "%a, %d %b %Y %H:%M:%S +0000"
  | _ => none

/-- The ending of an ordinal number. -/
def ordinalSuffix (day : Nat) : String :=
  if 11 ≤ day % 100 ∧ day % 100 ≤ 13 then "th"
  else if day % 10 = 1 then "st"
  else if day % 10 = 2 then "nd"
  else if day % 10 = 3 then "rd"
  else "th"

/-- The days of a month, found by stepping back from the first of the next one.  Behind the last
month of the calendar there is none, and that month has 31. -/
def daysInMonth (year : Int) (month : Nat) : Nat :=
  let next := if month = 12 then Date.of? (year + 1) 1 1 else Date.of? year (month + 1) 1
  ((next.bind (·.addDays? (-1))).map (·.day)).getD 31

/-- The text of a character that has no pattern: times are UTC, the rest stands for itself. -/
def literal (m : Moment) (c : Char) : List Char :=
  match c with
  | 'S' => (ordinalSuffix m.date.day).toList
  | 'z' => Number.figures m.date.ordinal0
  | 't' => Number.figures (daysInMonth m.date.year m.date.month)
  | 'L' => if (Date.of? m.date.year 2 29).isSome then ['1'] else ['0']
  | 'e' => ['U', 'T', 'C']
  | 'T' => ['U', 'T', 'C']
  | 'P' => "+00:00".toList
  | 'p' => ['Z']
  | 'O' => "+0000".toList
  | 'Z' => ['0']
  | 'I' => ['0']
  | c => [c]

/-- Literal text as a pattern. -/
def escape (text : List Char) : List Char :=
  text.flatMap fun c => if c = '%' then ['%', '%'] else [c]

/-- The pattern of a format for one moment.  A backslash makes the next character literal. -/
def toPattern (m : Moment) : List Char → List Char
  | [] => []
  | '\\' :: c :: cs => escape [c] ++ toPattern m cs
  | ['\\'] => []
  | c :: cs =>
    (match pattern? c with
      | some pattern => pattern.toList
      | none => escape (literal m c)) ++ toPattern m cs

/-- A moment in a format. -/
def format? (format : List Char) (m : Moment) : Option (List Char) :=
  Pattern.onMoment? (toPattern m format) m

/-- The layout in which the bounds of dates are documented, as in
`Monday, 15-Aug-05 15:52:01 UTC`. -/
def bound : String := "%A, %d-%b-%y %H:%M:%S UTC"

/-- A moment as the bound of a date. -/
def boundText? (m : Moment) : Option String :=
  (Pattern.onMoment? bound.toList m).map String.ofList

end FieldGuide.Calendar.DateLetters
