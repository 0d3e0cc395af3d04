import FieldGuide.Sampler
import FieldGuide.Vocabulary
import FieldGuide.Zone
import FieldGuide.Calendar.Pattern
set_option autoImplicit false

/-!
# Example texts and numbers

What is drawn from a stream to serve as an example: words, numbers with a given number of digits,
dates, addresses and names of time zones.
-/

namespace FieldGuide.Sampler

/-- One of some items, all being equally likely.  Where there is none, nothing is drawn. -/
def element {α : Type} (items : List α) : Sampler (Option α) :=
  match items with
  | [] => pure none
  | _ :: _ => do return items[← below items.length]?

/-- One of some texts. -/
def pick (items : List String) : Sampler String := do return (← element items).getD "lorem"

/-- A word. -/
def word : Sampler String := pick words

/-- The greatest number that is drawn where no other bound is given. -/
def greatest : Int64 := 2147483647

/-- The digits of a number that is asked to have `digits` of them: from 1 to 18. -/
def clampDigits (digits : Nat) : Nat := max 1 (min digits 18)

/-- A number with at most so many digits, or exactly so many.  Where the digits are not given, a
number of them from 1 to 9 is drawn first. -/
def numberOfDigits (digits : Option Nat) (exactly : Bool) : Sampler Int64 := do
  let d ← match digits with
    | some digits => pure (clampDigits digits)
    | none => do pure ((← below32 9) + 1)
  let low := if exactly then 10 ^ (d - 1) else 0
  between (Int64.ofNat low) (Int64.ofNat (10 ^ d - 1))

/-- The least number of the chunks of which long digit strings are made. -/
def chunkLow : Nat := 100000000

/-- How many numbers there are for a chunk. -/
def chunkCount : Nat := greatest.toInt.toNat - chunkLow + 1

/-- The digits of a chunk: nine or ten of them. -/
def chunk (index : Nat) : List Char := Number.figures (chunkLow + index)

theorem length_chunk_pos (index : Nat) : 0 < (chunk index).length :=
  Number.length_figures_pos _

/-- A string of exactly `length` digits, the first of which is not zero, cut from chunks. -/
def digitString (length : Nat) : Sampler (List Char) :=
  if length = 0 then pure []
  else do
    let index ← below chunkCount
    return (chunk index).take length ++ (← digitString (length - (chunk index).length))
termination_by length
decreasing_by
  have := length_chunk_pos index
  omega

/-- A date from the start of 1970 to 19 January 2038. -/
def date : Sampler Calendar.Date := do
  let second ← below (2 ^ 31)
  let day : Nat := second / Calendar.secondsPerDay
  return (Calendar.epoch.addDays? day).getD Calendar.epoch

/-- A date in a pattern; nothing comes of a pattern that asks for more than a date. -/
def dateText? (pattern : String) : Sampler (Option String) := do
  return (Calendar.Pattern.onDate? pattern.toList (← date)).map String.ofList

/-- A user name: a word, two words with a point between them, or a word and a number. -/
def userName : Sampler String := do
  let first ← word
  match ← belowSmall 3 with
  | 0 => return first
  | 1 => return first ++ "." ++ (← word)
  | _ => return first ++ toString ((← below32 99) + 1)

/-- A mail address on a domain that is reserved for examples. -/
def email : Sampler String := do
  let user ← userName
  return user ++ "@" ++ (← pick safeDomains)

/-- A web address. -/
def url : Sampler String := do
  let scheme := if ← coin then "http" else "https"
  let host ← word
  let suffix ← pick hostSuffixes
  let first ← word
  let second ← word
  return scheme ++ "://www." ++ host ++ "." ++ suffix ++ "/" ++ first ++ "-" ++ second

/-- The four octets of a number of 32 bits, from the highest. -/
def octets (n : Nat) : List Nat := [n / 2 ^ 24 % 256, n / 2 ^ 16 % 256, n / 2 ^ 8 % 256, n % 256]

/-- An Internet address of 32 bits in its usual writing. -/
def addressText (n : Nat) : String := ".".intercalate ((octets n).map toString)

/-- An Internet address of 32 bits. -/
def address : Sampler String := do return addressText (← below (2 ^ 32))

/-- The name of a time zone. -/
def timezone : Sampler String := do return (← element zones).getD "UTC"

end FieldGuide.Sampler
