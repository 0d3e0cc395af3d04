import FieldGuide.Stream
import FieldGuide.Interruption
import FieldGuide.Number.Figures
set_option autoImplicit false

/-!
# Bounded draws

A sampler takes words from a stream and makes a value of them.  To choose one of `n` indices a word
`w` of `b` bits is multiplied by `n`: the high half of the product is the index, and the word is
refused where the low half lies above a bound, so that no index is favoured.  A refused word is
followed by the next one.
-/

namespace FieldGuide

/-- A computation that takes words from a stream. -/
abbrev Sampler := StateT Stream (Except Interruption)

namespace Sampler

/-- A word of 32 bits. -/
def word32 : Sampler Nat := fun s => .ok (s.next32.1.toNat, s.next32.2)

/-- A word of 64 bits. -/
def word64 : Sampler Nat := fun s => .ok (s.next64.1.toNat, s.next64.2)

/-- The greatest low half that is accepted: as many multiples of `n` as fit, in a power of two. -/
def looseZone (bits n : Nat) : Nat := n * 2 ^ (bits - Number.bitLength n) - 1

/-- The greatest low half that is accepted when no word is wasted. -/
def tightZone (bits n : Nat) : Nat := 2 ^ bits - 1 - (2 ^ bits - n) % n

/-- The index below `n` that a word selects, or nothing if the word is refused. -/
def select? (bits zone n word : Nat) : Option Nat :=
  if word * n % 2 ^ bits ≤ zone then some (word * n / 2 ^ bits) else none

/-- Takes words until one of them is accepted, `attempts` words at most. -/
def firstAccepted (accept : Nat → Option Nat) (word : Sampler Nat) : (attempts : Nat) → Sampler Nat
  | 0 => throw .exhausted
  | attempts + 1 => do
    match accept (← word) with
    | some index => pure index
    | none => firstAccepted accept word attempts

/-- How many words one draw may refuse.  At least every second word is accepted, so that no stream
comes near it. -/
def attempts : Nat := 1000

/-- An index below `n`, from words of 64 bits. -/
def below (n : Nat) : Sampler Nat := firstAccepted (select? 64 (looseZone 64 n) n) word64 attempts

/-- An index below `n`, from words of 32 bits. -/
def below32 (n : Nat) : Sampler Nat := firstAccepted (select? 32 (looseZone 32 n) n) word32 attempts

/-- An index below a small `n`, from words of 32 bits of which as few as possible are refused. -/
def belowSmall (n : Nat) : Sampler Nat :=
  firstAccepted (select? 32 (tightZone 32 n) n) word32 attempts

/-- A fair coin: the top bit of a word of 64 bits is clear. -/
def coin : Sampler Bool := do return (← word64) < 2 ^ 63

/-- A number between two bounds, which may stand in either order.  Where every number of 64 bits is
allowed, the word itself is taken. -/
def between (a b : Int64) : Sampler Int64 := do
  let low := min a.toInt b.toInt
  let count := (max a.toInt b.toInt - low + 1).toNat
  if count = 2 ^ 64 then return Int64.ofInt (← word64)
  else return Int64.ofInt (low + (← below count))

end Sampler

end FieldGuide
