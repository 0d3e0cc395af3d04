import FieldGuide.Stream.Block
import FieldGuide.Checksum
set_option autoImplicit false

/-!
# The random stream

An endless sequence of 32-bit words that a numeric seed determines.  The state of a stream is the
seed and the number of words taken, so two streams of one seed that have given equally many words
go on alike.
-/

namespace FieldGuide

/-- A place in the sequence of a seed. -/
structure Stream where
  seed : UInt64
  /-- how many words have been taken -/
  position : Nat := 0
  deriving DecidableEq, Repr, Inhabited

namespace Stream

/-- Word `n` of the sequence of a seed. -/
def wordAt (seed : UInt64) (n : Nat) : UInt32 :=
  (block (keyOfSeed seed) (UInt64.ofNat (n / 16))).get ⟨n % 16, Nat.mod_lt _ (by decide)⟩

/-- The stream of a numeric seed, at its start. -/
def ofSeed (seed : UInt64) : Stream := ⟨seed, 0⟩

/-- The stream of a seed text, whose number is its checksum. -/
def ofText (seed : String) : Stream := ofSeed (Checksum.ofText seed).toUInt64

/-- Takes one word. -/
def next32 (s : Stream) : UInt32 × Stream := (wordAt s.seed s.position, ⟨s.seed, s.position + 1⟩)

/-- Takes two words as one of 64 bits, the low half first. -/
def next64 (s : Stream) : UInt64 × Stream :=
  ((wordAt s.seed s.position).toUInt64 ||| ((wordAt s.seed (s.position + 1)).toUInt64 <<< 32),
    ⟨s.seed, s.position + 2⟩)

end Stream

end FieldGuide
