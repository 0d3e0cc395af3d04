import FieldGuide.Calendar.Moment
import FieldGuide.Calendar.Names
import FieldGuide.Number.Figures
set_option autoImplicit false

/-!
# Date patterns

A pattern is a text in which a percent sign and a letter stand for a part of a date or a time of
day.  `read?` takes a pattern apart into items; it fails on an unknown letter and on a percent sign
at the end.  An item has a text on every moment, and on a date alone unless it asks for the time.
-/

namespace FieldGuide.Calendar

/-- How a number is brought to its least width. -/
inductive Pad where
  | none
  | zero
  | space
  deriving DecidableEq, Repr, Inhabited

/-- The numbers that a pattern can ask for. -/
inductive Quantity where
  | year
  | century
  | yearOfCentury
  | isoYear
  | isoYearOfCentury
  | quarter
  | month
  | day
  /-- day of the year from 1 -/
  | ordinal
  /-- week of the year, weeks starting on Sunday -/
  | sundayWeek
  /-- week of the year, weeks starting on Monday -/
  | mondayWeek
  | isoWeek
  /-- day of the week, Sunday being 0 -/
  | weekdayFromSunday
  /-- day of the week, Monday being 1 -/
  | weekdayFromMonday
  | hour
  /-- hour of the half day, from 1 to 12 -/
  | hour12
  | minute
  | second
  /-- nanoseconds since the second began -/
  | nanosecond
  /-- whole seconds since the start of 1970 -/
  | timestamp
  deriving DecidableEq, Repr, Inhabited

/-- A piece of a pattern. -/
inductive Item where
  | literal (c : Char)
  | number (quantity : Quantity) (pad : Pad)
  | weekday (short : Bool)
  | month (short : Bool)
  /-- the half of the day, in capitals or not -/
  | halfDay (capitals : Bool)
  /-- the first figures of the fraction of the second -/
  | fraction (figures : Nat)
  deriving DecidableEq, Repr, Inhabited

/-- Brings a text to a least width from the left. -/
def padLeft (width : Nat) (fill : Char) (text : List Char) : List Char :=
  List.replicate (width - text.length) fill ++ text

/-- The sign of a number, if it is written. -/
def signOf (always : Bool) (n : Int) : List Char :=
  if n < 0 then ['-'] else if always then ['+'] else []

/-- A number with at least `width` characters, its sign among them.  Zeros go behind the sign and
spaces before it. -/
def padNumber (pad : Pad) (width : Nat) (always : Bool) (n : Int) : List Char :=
  let sign := signOf always n
  let figures := Number.figures n.natAbs
  match pad with
  | .none => sign ++ figures
  | .zero => sign ++ padLeft (width - sign.length) '0' figures
  | .space => padLeft width ' ' (sign ++ figures)

/-- A year has four figures at least, and a sign when it is negative or has more. -/
def padYear (pad : Pad) (year : Int) : List Char :=
  if 0 ≤ year ∧ year ≤ 9999 then padNumber pad 4 false year else padNumber pad 5 true year

/-- The week of the year in which a day lies, weeks starting on the day of the week `first`. -/
def weekFrom (first : Nat) (d : Date) : Nat :=
  (d.ordinal0 + 7 - (d.weekday + 7 - first) % 7) / 7

namespace Quantity

/-- The text of a number on a date and, if there is one, a time of day. -/
def text? (pad : Pad) (d : Date) (clock : Option Clock) (q : Quantity) : Option (List Char) :=
  let one (n : Nat) := some (padNumber .none 1 false n)
  let two (n : Nat) := some (padNumber pad 2 false n)
  match q with
  | year => some (padYear pad d.year)
  | century => some (padNumber pad 2 false (d.year / 100))
  | yearOfCentury => some (padNumber pad 2 false (d.year % 100))
  | isoYear => some (padYear pad d.isoYear)
  | isoYearOfCentury => some (padNumber pad 2 false (d.isoYear % 100))
  | quarter => one ((d.month - 1) / 3 + 1)
  | month => two d.month
  | day => two d.day
  | ordinal => some (padNumber pad 3 false (d.ordinal0 + 1 : Nat))
  | sundayWeek => two (weekFrom 6 d)
  | mondayWeek => two (weekFrom 0 d)
  | isoWeek => two d.isoWeek
  | weekdayFromSunday => one ((d.weekday + 1) % 7)
  | weekdayFromMonday => one (d.weekday + 1)
  | hour => clock.bind fun c => two c.hour
  | hour12 => clock.bind fun c => two ((c.hour + 11) % 12 + 1)
  | minute => clock.bind fun c => two c.minute
  | second => clock.bind fun c => two c.second
  | nanosecond => clock.map fun c => padNumber pad 9 false c.subsecond
  | timestamp => clock.map fun c => padNumber pad 9 false (Moment.timestamp ⟨d, c⟩)

end Quantity

namespace Item

/-- A name in full or cut short. -/
def nameText (short : Bool) (name : List Char) : List Char :=
  if short then shortName name else name

/-- The name of the half of the day. -/
def halfDayText (capitals : Bool) (c : Clock) : List Char :=
  if c.hour < 12 then (if capitals then ['A', 'M'] else ['a', 'm'])
  else (if capitals then ['P', 'M'] else ['p', 'm'])

/-- The text of an item on a date and, if there is one, a time of day. -/
def text? (d : Date) (clock : Option Clock) : Item → Option (List Char)
  | literal c => some [c]
  | number quantity pad => quantity.text? pad d clock
  | weekday short => some (nameText short (weekdayName d.weekday))
  | month short => some (nameText short (monthName d.month))
  | halfDay capitals => clock.map (halfDayText capitals)
  | fraction figures =>
    clock.map fun c =>
      padNumber .zero figures false (c.subsecond / 10 ^ (9 - figures) : Nat)

end Item

namespace Pattern

/-- The number that a letter stands for, and how it is padded unless the pattern says otherwise. -/
def number? : Char → Option (Quantity × Pad)
  | 'Y' => some (.year, .zero)
  | 'C' => some (.century, .zero)
  | 'y' => some (.yearOfCentury, .zero)
  | 'G' => some (.isoYear, .zero)
  | 'g' => some (.isoYearOfCentury, .zero)
  | 'q' => some (.quarter, .zero)
  | 'm' => some (.month, .zero)
  | 'd' => some (.day, .zero)
  | 'e' => some (.day, .space)
  | 'j' => some (.ordinal, .zero)
  | 'U' => some (.sundayWeek, .zero)
  | 'W' => some (.mondayWeek, .zero)
  | 'V' => some (.isoWeek, .zero)
  | 'w' => some (.weekdayFromSunday, .none)
  | 'u' => some (.weekdayFromMonday, .none)
  | 'H' => some (.hour, .zero)
  | 'k' => some (.hour, .space)
  | 'I' => some (.hour12, .zero)
  | 'l' => some (.hour12, .space)
  | 'M' => some (.minute, .zero)
  | 'S' => some (.second, .zero)
  | 'f' => some (.nanosecond, .zero)
  | 's' => some (.timestamp, .none)
  | _ => none

/-- A number in its usual padding. -/
def plain (q : Quantity) : Item := .number q .zero

/-- The items that a letter stands for, numbers apart. -/
def items? : Char → Option (List Item)
  | 'A' => some [.weekday false]
  | 'a' => some [.weekday true]
  | 'B' => some [.month false]
  | 'b' => some [.month true]
  | 'h' => some [.month true]
  | 'P' => some [.halfDay false]
  | 'p' => some [.halfDay true]
  | '%' => some [.literal '%']
  | 'n' => some [.literal '\n']
  | 't' => some [.literal '\t']
  | 'D' => some [plain .month, .literal '/', plain .day, .literal '/', plain .yearOfCentury]
  | 'x' => some [plain .month, .literal '/', plain .day, .literal '/', plain .yearOfCentury]
  | 'F' => some [plain .year, .literal '-', plain .month, .literal '-', plain .day]
  | 'v' =>
    some [.number .day .space, .literal '-', .month true, .literal '-', plain .year]
  | 'R' => some [plain .hour, .literal ':', plain .minute]
  | 'T' => some [plain .hour, .literal ':', plain .minute, .literal ':', plain .second]
  | 'X' => some [plain .hour, .literal ':', plain .minute, .literal ':', plain .second]
  | 'r' =>
    some [plain .hour12, .literal ':', plain .minute, .literal ':', plain .second, .literal ' ',
      .halfDay true]
  | 'c' =>
    some [.weekday true, .literal ' ', .month true, .literal ' ', .number .day .space,
      .literal ' ', plain .hour, .literal ':', plain .minute, .literal ':', plain .second,
      .literal ' ', plain .year]
  | _ => none

/-- The padding that a flag behind a percent sign asks for. -/
def flag? : Char → Option Pad
  | '-' => some .none
  | '0' => some .zero
  | '_' => some .space
  | _ => none

/-- The figures of a fraction that a digit asks for when `f` follows. -/
def figures? : Char → Option Nat
  | '3' => some 3
  | '6' => some 6
  | '9' => some 9
  | _ => none

/-- What a letter stands for without a flag. -/
def letter? (c : Char) : Option (List Item) :=
  match number? c with
  | some (quantity, pad) => some [.number quantity pad]
  | none => items? c

/-- The items of a pattern.  A flag is followed by the letter of a number. -/
def read? : List Char → Option (List Item)
  | [] => some []
  | '%' :: cs =>
    match cs with
    | [] => none
    | [c] => letter? c
    | flag :: c :: cs =>
      match flag? flag, figures? flag with
      | some pad, _ =>
        match number? c with
        | some (quantity, _) => (read? cs).map (.number quantity pad :: ·)
        | none => none
      | none, some figures =>
        if c = 'f' then (read? cs).map (.fraction figures :: ·) else none
      | none, none =>
        match letter? flag with
        | some items => (read? (c :: cs)).map (items ++ ·)
        | none => none
  | c :: cs => (read? cs).map (.literal c :: ·)

/-- The text of items on a date and, if there is one, a time of day. -/
def render? (d : Date) (clock : Option Clock) : List Item → Option (List Char)
  | [] => some []
  | item :: items => do return (← item.text? d clock) ++ (← render? d clock items)

/-- A date in a pattern. -/
def onDate? (pattern : List Char) (d : Date) : Option (List Char) :=
  (read? pattern).bind (render? d none)

/-- A moment in a pattern. -/
def onMoment? (pattern : List Char) (m : Moment) : Option (List Char) :=
  (read? pattern).bind (render? m.date (some m.clock))

end Pattern

end FieldGuide.Calendar
