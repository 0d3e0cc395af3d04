set_option autoImplicit false

/-!
# Blocks of pseudorandom words

The ChaCha block function with twelve rounds, a 64-bit block counter and nonce zero.  A block is
sixteen words, and block `n` of a key does not depend on the blocks before it.
-/

namespace FieldGuide.Stream

/-- Sixteen words: the working state, and one block of output. -/
abbrev Block := Vector UInt32 16

/-- Eight words. -/
abbrev Key := Vector UInt32 8

/-- A word turned left. -/
def rotateLeft (w : UInt32) (n : UInt32) : UInt32 := (w <<< n) ||| (w >>> (32 - n))

/-- Mixes four words of the state. -/
def quarterRound (s : Block) (a b c d : Fin 16) : Block :=
  let s := s.set a (s[a] + s[b])
  let s := s.set d (rotateLeft (s[d] ^^^ s[a]) 16)
  let s := s.set c (s[c] + s[d])
  let s := s.set b (rotateLeft (s[b] ^^^ s[c]) 12)
  let s := s.set a (s[a] + s[b])
  let s := s.set d (rotateLeft (s[d] ^^^ s[a]) 8)
  let s := s.set c (s[c] + s[d])
  s.set b (rotateLeft (s[b] ^^^ s[c]) 7)

/-- One round over the columns and one over the diagonals. -/
def doubleRound (s : Block) : Block :=
  let s := quarterRound s 0 4 8 12
  let s := quarterRound s 1 5 9 13
  let s := quarterRound s 2 6 10 14
  let s := quarterRound s 3 7 11 15
  let s := quarterRound s 0 5 10 15
  let s := quarterRound s 1 6 11 12
  let s := quarterRound s 2 7 8 13
  quarterRound s 3 4 9 14

/-- The state before the first round: four constants, the key, the counter and the nonce. -/
def initial (key : Key) (counter : UInt64) : Block :=
  #v[0x61707865, 0x3320646e, 0x79622d32, 0x6b206574,
     key[0], key[1], key[2], key[3], key[4], key[5], key[6], key[7],
     counter.toUInt32, (counter >>> 32).toUInt32, 0, 0]

/-- The number of double rounds. -/
def doubleRounds : Nat := 6

/-- The block of a key and a counter. -/
def block (key : Key) (counter : UInt64) : Block :=
  let start := initial key counter
  let mixed := (List.range doubleRounds).foldl (fun s _ => doubleRound s) start
  mixed.zipWith (· + ·) start

/-- One step of the linear congruence that stretches a seed. -/
def stretch (state : UInt64) : UInt64 := state * 6364136223846793005 + 11634580027462260723

/-- The word that a state of the congruence gives: its high bits folded and turned by its top. -/
def fold (state : UInt64) : UInt32 :=
  let folded := (((state >>> 18) ^^^ state) >>> 27).toUInt32
  let turn := (state >>> 59).toUInt32
  (folded >>> turn) ||| (folded <<< ((32 - turn) % 32))

/-- The key of a numeric seed: eight successive states, folded. -/
def keyOfSeed (seed : UInt64) : Key :=
  Vector.ofFn fun i => fold ((List.range (i.val + 1)).foldl (fun s _ => stretch s) seed)

end FieldGuide.Stream
