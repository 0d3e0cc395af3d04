import FieldGuide.DatePhrase.Token
import FieldGuide.Text.LowerCase
import FieldGuide.Number.Numeral
set_option autoImplicit false

/-!
# Reading a date phrase

A phrase has a date part and a time part, and either may be missing.  The date part is an absolute
date, a distance from now, a day of the week, or a day of a month whose year is left open.  The
time part is an hour with minutes behind a colon or a point, or with `am` or `pm`.  What follows a
complete phrase is ignored.

Names of days, months and units count by their first letters only.  Letters are counted in bytes of
UTF-8, and a name that would have to be cut inside a character breaks the reading off.
-/

namespace FieldGuide.DatePhrase

/-- Why a phrase names no moment. -/
inductive Fault where
  /-- it is no date phrase, or names a date that does not exist -/
  | unreadable
  /-- it cannot be evaluated to the end -/
  | broken
  deriving DecidableEq, Repr, Inhabited

/-- A reader takes tokens or characters off the front of a text. -/
abbrev Reader := StateT (List Char) (Except Fault)

/-- How ambiguous phrases are understood: in figures the British put the day first and the
Americans the month; `next friday` is the one of next week for the British. -/
inductive Dialect where
  | uk
  | us
  deriving DecidableEq, Repr, Inhabited

/-- On which side of the present a name is looked for. -/
inductive Direction where
  | next
  | last
  /-- the phrase does not say -/
  | here
  deriving DecidableEq, Repr, Inhabited

/-- A unit in which distances are given. -/
inductive TimeUnit where
  /-- a number of seconds -/
  | seconds (count : Int)
  /-- a number of days -/
  | days (count : Int)
  /-- a number of calendar months -/
  | months (count : Int)
  deriving DecidableEq, Repr, Inhabited

/-- The date part of a phrase. -/
inductive DatePart where
  | absolute (year : Int) (month day : Nat)
  | relative (unit : TimeUnit) (count : Int)
  /-- a day of the week, Monday being 0 -/
  | weekday (direction : Direction) (day : Nat)
  | dayOfMonth (direction : Direction) (day month : Nat)
  deriving DecidableEq, Repr, Inhabited

/-- The time part of a phrase. -/
structure TimePart where
  hour : Nat
  minute : Nat := 0
  second : Nat := 0
  micros : Nat := 0
  /-- seconds by which the time is ahead of UTC -/
  offset : Option Int := none
  deriving DecidableEq, Repr, Inhabited

/-- What the date part has found out about a time whose hour it took. -/
inductive HourMark where
  /-- a colon followed -/
  | colon
  /-- a point followed -/
  | point
  | am
  | pm
  /-- what follows is still to be read -/
  | unknown
  deriving DecidableEq, Repr, Inhabited

/-! ## Parts of a phrase -/

/-- Stops with a fault. -/
def fail {α : Type} (fault : Fault) : Reader α := throw fault

/-- Takes the next token. -/
def token : Reader Token := fun cs => .ok (nextToken cs)

/-- Looks at the next character; spaces are not skipped. -/
def peek : Reader (Option Char) := fun cs => .ok (cs.head?, cs)

/-- Drops the next character. -/
def dropChar : Reader Unit := fun cs => .ok ((), cs.drop 1)

/-- A number of 32 bits. -/
def narrow (n : Nat) : Reader Nat := if n < 2 ^ 32 then pure n else fail .unreadable

/-- Takes a token that has to be a number of 32 bits. -/
def narrowNumber : Reader Nat := do
  match ← token with
  | .number n => narrow n
  | _ => fail .unreadable

/-- The signed number with the 32 lowest bits of a number. -/
def signed32 (n : Int) : Int := n.bmod (2 ^ 32)

/-- A result that has to be a number of 32 bits without a sign. -/
def unsignedResult (n : Nat) : Reader Nat := if n < 2 ^ 32 then pure n else fail .broken

/-- The negative of a signed number of 32 bits, which the least of them does not have. -/
def negative (n : Int) : Reader Int := if n = -2 ^ 31 then fail .broken else pure (-n)

/-- The part of a text with a given number of bytes, if no character has to be cut for it. -/
def cutBytes? : (bytes : Nat) → List Char → Option (List Char)
  | 0, _ => some []
  | _ + 1, [] => none
  | bytes + 1, c :: cs =>
    if c.utf8Size ≤ bytes + 1 then (cutBytes? (bytes + 1 - c.utf8Size) cs).map (c :: ·) else none

/-- The bytes of a text. -/
def byteCount (cs : List Char) : Nat := (cs.map Char.utf8Size).foldr (· + ·) 0

/-- The first `bytes` bytes of a name, which must not end inside a character. -/
def key (bytes : Nat) (name : List Char) : Reader (List Char) :=
  match cutBytes? bytes name with
  | some cut => pure cut
  | none => fail .broken

/-- The first three bytes of a name, if it has as many. -/
def key3 (name : List Char) : Reader (Option (List Char)) :=
  if byteCount name < 3 then pure none else some <$> key 3 name

/-- The day of the week with a key, Monday being 0. -/
def weekdayOfKey? (cut : List Char) : Option Nat :=
  ["mon", "tue", "wed", "thu", "fri", "sat", "sun"].idxOf? (String.ofList cut)

/-- The month with a key, January being 1. -/
def monthOfKey? (cut : List Char) : Option Nat :=
  (["jan", "feb", "mar", "apr", "may", "jun", "jul", "aug", "sep", "oct", "nov",
    "dec"].idxOf? (String.ofList cut)).map (· + 1)

/-- The unit with a key of three bytes, or of one byte for a shorter name. -/
def unitOfKey? (cut : List Char) : Option TimeUnit :=
  [("sec", .seconds 1), ("min", .seconds 60), ("hou", .seconds 3600), ("day", .days 1),
    ("wee", .days 7), ("mon", .months 1), ("yea", .months 12), ("s", .seconds 1),
    ("m", .seconds 60), ("h", .seconds 3600), ("d", .days 1), ("w", .days 7),
    ("y", TimeUnit.months 12)].lookup (String.ofList cut)

/-- The unit that a name stands for. -/
def unitOfName? (name : List Char) : Reader (Option TimeUnit) := do
  if byteCount name < 3 then return unitOfKey? (← key 1 name)
  else return unitOfKey? (← key 3 name)

/-- The month that a name stands for. -/
def monthOfName? (name : List Char) : Reader (Option Nat) := do
  return (← key3 name).bind monthOfKey?

/-! ## The date part -/

/-- The distance in days of the words that name a day by themselves. -/
def shortcut? : Token → Option Int
  | .word ['n', 'o', 'w'] => some 0
  | .word ['t', 'o', 'd', 'a', 'y'] => some 0
  | .word ['y', 'e', 's', 't', 'e', 'r', 'd', 'a', 'y'] => some (-1)
  | .word ['t', 'o', 'm', 'o', 'r', 'r', 'o', 'w'] => some 1
  | _ => none

/-- The direction that a word gives to the name behind it. -/
def direction? : Token → Option Direction
  | .word ['n', 'e', 'x', 't'] => some .next
  | .word ['l', 'a', 's', 't'] => some .last
  | _ => none

/-- A year that was read as a number of 32 bits. -/
def yearOf (n : Nat) : Int := signed32 n

/-- A date part that starts with a name: a day of the week, or a month with its day and year. -/
def namedDate (direction : Direction) (name : List Char) : Reader DatePart := do
  match ← key3 name with
  | none => fail .unreadable
  | some cut =>
    match weekdayOfKey? cut, monthOfKey? cut with
    | some day, _ => return .weekday direction day
    | none, none => fail .unreadable
    | none, some month =>
      match ← token with
      | .number n =>
        let day ← narrow n
        if (← peek) = some ',' then
          dropChar
          let year ← narrowNumber
          return .absolute (yearOf year) month day
        else return .dayOfMonth direction day month
      | _ => return .dayOfMonth direction 1 month

/-- A year written with two figures lies between 1941 and 2040. -/
def pivotYear (n : Nat) : Nat := if 100 ≤ n then n else if 40 < n then 1900 + n else 2000 + n

/-- A date part in figures with slashes, of which the first number has been read. -/
def slashedDate (dialect : Dialect) (direction : Direction) (first : Nat) : Reader DatePart := do
  let second ← narrowNumber
  let (day, month) := match dialect with
    | .uk => (first, second)
    | .us => (second, first)
  if (← peek) = some '/' then
    dropChar
    let year ← narrowNumber
    return .absolute (yearOf (pivotYear year)) month day
  else return .dayOfMonth direction day month

/-- A date part in figures with hyphens, of which the year has been read. -/
def hyphenatedDate (year : Nat) : Reader DatePart := do
  let month ← narrowNumber
  if (← token) = .symbol '-' then
    let day ← narrowNumber
    return .absolute (yearOf year) month day
  else fail .unreadable

/-- What a date part yields: a date, if there is one, and an hour that belongs to the time part. -/
abbrev DateAndHour := Option DatePart × Option (Nat × HourMark)

/-- A distance: without a sign before it, `ago` may follow, or the hour of a time, of which the 32
lowest bits count. -/
def distance (backward : Bool) (unit : TimeUnit) (n : Nat) : Reader DateAndHour := do
  let count := signed32 n
  if backward then return (some (.relative unit (← negative count)), none)
  else
    match ← token with
    | .word ['a', 'g', 'o'] => return (some (.relative unit (← negative count)), none)
    | .word _ => fail .unreadable
    | .number hour => return (some (.relative unit count), some (hour % 2 ^ 32, .unknown))
    | _ => return (some (.relative unit count), none)

/-- A date part that starts with a number and a name.  Behind a month the next token is taken in any
case, and is the year if it is a number of 32 bits. -/
def numberAndName (backward : Bool) (direction : Direction) (n : Nat) (name : List Char) :
    Reader DateAndHour := do
  match ← monthOfName? name with
  | some month =>
    match ← token with
    | .number year =>
      if year < 2 ^ 32 then return (some (.absolute (yearOf year) month n), none)
      else return (some (.dayOfMonth direction n month), none)
    | _ => return (some (.dayOfMonth direction n month), none)
  | none =>
    match ← unitOfName? name with
    | some unit => distance backward unit n
    | none =>
      if name = ['a', 'm'] then return (none, some (n, .am))
      else if name = ['p', 'm'] then return (none, some (n, .pm))
      else fail .unreadable

/-- A date part that starts with a number. -/
def numberedDate (dialect : Dialect) (backward : Bool) (direction : Direction) (n : Nat) :
    Reader DateAndHour := do
  match ← token with
  | .ending => return (some (.absolute (yearOf n) 1 1), none)
  | .symbol '-' => return (some (← hyphenatedDate n), none)
  | .symbol '/' => return (some (← slashedDate dialect direction n), none)
  | .symbol ':' => return (none, some (n, .colon))
  | .symbol '.' => return (none, some (n, .point))
  | .word name => numberAndName backward direction n (Text.lower name)
  | _ => fail .unreadable

/-- A date part behind its sign and its direction. -/
def undirectedDate (dialect : Dialect) (backward : Bool) (direction : Direction) :
    Token → Reader DateAndHour
  | .word name => do return (some (← namedDate direction (Text.lower name)), none)
  | .number n => do numberedDate dialect backward direction (← narrow n)
  | _ => fail .unreadable

/-- A date part behind its sign. -/
def unsignedDate (dialect : Dialect) (backward : Bool) (first : Token) : Reader DateAndHour :=
  match shortcut? first with
  | some days => return (some (.relative (.days 1) days), none)
  | none =>
    match direction? first with
    | some direction => do undirectedDate dialect backward direction (← token)
    | none => undirectedDate dialect backward .here first

/-- The date part of a phrase. -/
def datePart (dialect : Dialect) : Reader DateAndHour := do
  match ← token with
  | .symbol '-' => unsignedDate dialect true (← token)
  | first => unsignedDate dialect false first

/-! ## The time part -/

/-- The hour of the day of an hour after noon. -/
def afternoonHour (hour : Nat) : Reader Nat := unsignedResult (hour + 12)

/-- The hour of the day of an hour of its half. -/
def halfDayHour (hour : Nat) (name : List Char) : Reader Nat :=
  if name = ['p', 'm'] then afternoonHour hour
  else if name = ['a', 'm'] then pure hour
  else fail .unreadable

/-- The microseconds of a fraction that is written as the text of a numeral. -/
def microsOf? (numeral : List Char) : Option Nat := do
  let fraction ← (← Number.Numeral.read? numeral).round?
  let (num, den) := Number.scale (fraction.mantissa * 1000000) 1 (-fraction.exponent)
  return (← Number.nearest? num den).floor

/-- The digits behind the point of a second.  Their first character is not looked at until the
number is formed, and that must succeed; if it is U+0000 it is left out. -/
def fraction : Reader Nat := fun cs =>
  let rest := cs.drop 1
  match (cs.take 1).filter (· ≠ stop) ++ rest.takeWhile Text.isNumeric with
  | [] => .error .unreadable
  | digits =>
    match microsOf? ('0' :: '.' :: digits) with
    | some micros => .ok (micros, rest.dropWhile Text.isNumeric)
    | none => .error .broken

/-- A distance from UTC behind its sign, as hours and minutes with a colon or in one number. -/
def utcOffset (ahead : Bool) : Reader Int := do
  let n ← narrowNumber
  let (hours, minutes) ←
    if (← peek) = some ':' then do
      dropChar
      pure (n, ← narrowNumber)
    else pure (n / 100, n % 100)
  let seconds : Int ← unsignedResult (60 * (minutes + 60 * hours))
  return if ahead then seconds else -seconds

/-- What stands behind the seconds of a time, or behind its minutes: a zone or a half of the day.
Numbers and quotations there are of no account. -/
def zoneOrHalf (time : TimePart) : Token → Reader TimePart
  | .symbol '+' => do return { time with offset := some (← utcOffset true) }
  | .symbol '-' => do return { time with offset := some (← utcOffset false) }
  | .symbol _ => fail .unreadable
  | .word ['Z'] => return { time with offset := some 0 }
  | .word name => do return { time with hour := ← halfDayHour time.hour name }
  | _ => return time

/-- A time whose minutes follow a colon. -/
def colonTime (hour : Nat) : Reader TimePart := do
  let minute ← narrowNumber
  let (second, behind) ←
    match ← token with
    | .symbol ':' => do
      let second ← narrowNumber
      pure (second, ← token)
    | .symbol _ => fail .unreadable
    | other => pure (0, other)
  if behind = .symbol '.' then
    let micros ← fraction
    zoneOrHalf { hour, minute, second, micros } (← token)
  else zoneOrHalf { hour, minute, second } behind

/-- A time whose minutes follow a point. -/
def pointTime (hour : Nat) : Reader TimePart := do
  let minute ← narrowNumber
  match ← token with
  | .ending => return { hour, minute }
  | .word name => return { hour := ← halfDayHour hour name, minute }
  | _ => fail .unreadable

/-- A time whose hour has been read, with what follows the hour. -/
def timeBehindHour (hour : Nat) : Token → Reader TimePart
  | .symbol ':' => colonTime hour
  | .symbol '.' => pointTime hour
  | _ => fail .unreadable

/-- The time whose hour was read with the date part. -/
def pendingTime (hour : Nat) : HourMark → Reader TimePart
  | .colon => colonTime hour
  | .point => pointTime hour
  | .am => return { hour }
  | .pm => return { hour := ← afternoonHour hour }
  | .unknown => do timeBehindHour hour (← token)

/-- A time of its own, perhaps behind a `T`. -/
def separateTime : Reader (Option TimePart) := do
  if (← peek) = some 'T' then dropChar
  match ← token with
  | .ending => return none
  | .number n =>
    let hour ← narrow n
    match ← token with
    | .word name => return some { hour := ← halfDayHour hour name }
    | other => return some (← timeBehindHour hour other)
  | _ => fail .unreadable

/-- The time part of a phrase.  Whether there is such a time of day is not asked here. -/
def timePart : Option (Nat × HourMark) → Reader (Option TimePart)
  | some (hour, mark) => some <$> pendingTime hour mark
  | none => separateTime

/-- Reads a phrase. -/
def phrase (dialect : Dialect) : Reader (Option DatePart × Option TimePart) := do
  let (date, pending) ← datePart dialect
  return (date, ← timePart pending)

end FieldGuide.DatePhrase
