import FieldGuide.Proofs.Digits
set_option autoImplicit false

/-!
# Numbers of a width

A number is asked for with so many digits, or with as many as are drawn first.  Its bounds come from
powers of ten, computed in words of 64 bits with a sign.  None of these computations leaves the
words, whatever width is asked for, and what is drawn between the bounds has the width.
-/

namespace FieldGuide

/-! ## Words -/

namespace Number

/-- The word of 64 bits that a whole number is, if it is one. -/
def word? (n : Int) : Option Int64 :=
  if Int64.minValue.toInt ≤ n ∧ n ≤ Int64.maxValue.toInt then some (Int64.ofInt n) else none

theorem word?_eq_some_iff {n : Int} {word : Int64} : word? n = some word ↔ word.toInt = n := by
  unfold word?
  constructor
  · intro h
    split at h
    · rename_i hrange
      rw [← Option.some.inj h]
      exact Int64.toInt_ofInt_of_le hrange.1 (Int.lt_add_one_of_le hrange.2)
    · cases h
  · rintro rfl
    rw [if_pos ⟨word.minValue_le_toInt, word.toInt_le⟩, Int64.ofInt_toInt]

section

variable {m : Nat} (hm : m ≤ 10 ^ 18)

include hm

theorem toInt_ofNat_small : (Int64.ofNat m).toInt = m := Int64.toInt_ofNat_of_lt (by omega)

/-- The numbers up to ten to the power of 18 are words. -/
theorem word?_of_small {n : Int} (hn : n = m) : word? n = some (Int64.ofNat m) :=
  word?_eq_some_iff.mpr ((toInt_ofNat_small hm).trans hn.symm)

end

end Number

namespace Sampler

open Number

/-! ## The computation in words -/

/-- The least number of a width, if it is a word. -/
def leastOfWidth? (d : Nat) (exactly : Bool) : Option Int64 :=
  if exactly then word? (10 ^ (d - 1)) else some 0

/-- The least and the greatest number of a width.  Nothing comes of a power or a difference that is
no word, nor of bounds that have no number between them. -/
def bounds? (d : Nat) (exactly : Bool) : Option (Int64 × Int64) := do
  let power ← word? (10 ^ d)
  let high ← word? (power.toInt - 1)
  let low ← leastOfWidth? d exactly
  if low ≤ high then some (low, high) else none

/-- How many numbers there are between two bounds, if that and the difference are words. -/
def count? (low high : Int64) : Option Int64 := do
  let difference ← word? (high.toInt - low.toInt)
  word? (difference.toInt + 1)

/-- A number of so many digits, computed in words.  Nothing comes of a step that leaves the words. -/
def numberInWords (digits : Option Nat) (exactly : Bool) : Sampler (Option Int64) := do
  let d ← width digits
  match bounds? d exactly with
  | none => return none
  | some (low, high) =>
    match count? low high with
    | none => return none
    | some count => return word? (low.toInt + (← below count.toInt.toNat))

/-! ## No step leaves the words -/

theorem natCast_leastOfWidth (d : Nat) (exactly : Bool) :
    (leastOfWidth d exactly : Int) = if exactly then 10 ^ (d - 1) else 0 := by
  unfold leastOfWidth
  split
  · exact Int.natCast_pow 10 (d - 1)
  · rfl

section

variable {d : Nat} (hpos : 1 ≤ d) (hwidth : d ≤ 18) (exactly : Bool)

include hpos hwidth

/-- Eighteen is the greatest width of which all numbers are words. -/
theorem small_of_width : leastOfWidth d exactly < 10 ^ d ∧ 10 ^ d ≤ 10 ^ 18 :=
  ⟨leastOfWidth_lt hpos exactly, Nat.pow_le_pow_right (by decide) hwidth⟩

theorem leastOfWidth?_eq :
    leastOfWidth? d exactly = some (Int64.ofNat (leastOfWidth d exactly)) := by
  obtain ⟨hleast, hpower⟩ := small_of_width hpos hwidth exactly
  rw [← word?_of_small (by omega) (natCast_leastOfWidth d exactly).symm]
  cases exactly <;> rfl

theorem bounds?_eq :
    bounds? d exactly =
      some (Int64.ofNat (leastOfWidth d exactly), Int64.ofNat (10 ^ d - 1)) := by
  obtain ⟨hleast, hpower⟩ := small_of_width hpos hwidth exactly
  have htop : word? (10 ^ d) = some (Int64.ofNat (10 ^ d)) :=
    word?_of_small hpower (Int.natCast_pow 10 d).symm
  have hhigh : word? ((Int64.ofNat (10 ^ d)).toInt - 1) = some (Int64.ofNat (10 ^ d - 1)) := by
    rw [toInt_ofNat_small hpower]
    exact word?_of_small (by omega) (by omega)
  have hle : Int64.ofNat (leastOfWidth d exactly) ≤ Int64.ofNat (10 ^ d - 1) := by
    rw [Int64.le_iff_toInt_le, toInt_ofNat_small (by omega), toInt_ofNat_small (by omega)]
    omega
  simp only [bounds?, htop, hhigh, leastOfWidth?_eq hpos hwidth exactly, Option.bind_some,
    Option.bind_eq_bind, if_pos hle]

theorem count?_eq :
    count? (Int64.ofNat (leastOfWidth d exactly)) (Int64.ofNat (10 ^ d - 1)) =
      some (Int64.ofNat (10 ^ d - leastOfWidth d exactly)) := by
  obtain ⟨hleast, hpower⟩ := small_of_width hpos hwidth exactly
  have hdifference : word? ((10 ^ d - 1 : Nat) - (leastOfWidth d exactly : Int)) =
      some (Int64.ofNat (10 ^ d - 1 - leastOfWidth d exactly)) :=
    word?_of_small (by omega) (by omega)
  have hcount : word? ((10 ^ d - 1 - leastOfWidth d exactly : Nat) + 1) =
      some (Int64.ofNat (10 ^ d - leastOfWidth d exactly)) :=
    word?_of_small (by omega) (by omega)
  rw [count?, toInt_ofNat_small (by omega), toInt_ofNat_small (by omega), hdifference]
  change word? ((Int64.ofNat (10 ^ d - 1 - leastOfWidth d exactly)).toInt + 1) = _
  rw [toInt_ofNat_small (by omega), hcount]

/-- Between the bounds of a width, the index of a number is drawn. -/
theorem between_width :
    between (Int64.ofNat (leastOfWidth d exactly)) (Int64.ofNat (10 ^ d - 1)) = do
      return Int64.ofNat
        (leastOfWidth d exactly + (← below (10 ^ d - leastOfWidth d exactly))) := by
  obtain ⟨hleast, hpower⟩ := small_of_width hpos hwidth exactly
  have hlow := toInt_ofNat_small (show leastOfWidth d exactly ≤ 10 ^ 18 by omega)
  have hhigh := toInt_ofNat_small (show 10 ^ d - 1 ≤ 10 ^ 18 by omega)
  have hcount : (max (Int64.ofNat (leastOfWidth d exactly)).toInt (Int64.ofNat (10 ^ d - 1)).toInt -
      min (Int64.ofNat (leastOfWidth d exactly)).toInt (Int64.ofNat (10 ^ d - 1)).toInt + 1).toNat =
        10 ^ d - leastOfWidth d exactly := by
    omega
  rw [between_of_few hcount (by omega), hlow, hhigh, Int.min_eq_left (by omega)]
  rfl

end

/-- The computation in words comes to the number that is drawn, whatever is asked for. -/
theorem numberInWords_eq (digits : Option Nat) (exactly : Bool) :
    numberInWords digits exactly = some <$> numberOfDigits digits exactly := by
  rw [numberOfDigits_eq, map_bind, numberInWords]
  -- what comes behind the width matters only for the widths that there are
  refine bind_congr_of_ok fun _ d _ hd => ?_
  obtain ⟨⟨hpos, hwidth⟩, -⟩ := width_eq_ok hd
  obtain ⟨hleast, hpower⟩ := small_of_width hpos hwidth exactly
  rw [between_width hpos hwidth, map_bind]
  simp only [bounds?_eq hpos hwidth, count?_eq hpos hwidth]
  rw [toInt_ofNat_small (by omega), toInt_ofNat_small (by omega), Int.toNat_natCast]
  refine bind_congr_of_ok fun _ index _ hindex => ?_
  have hlt := below_lt (by omega) hindex
  rw [map_pure, word?_of_small (by omega) (Int.natCast_add _ _).symm]

/-! ## Numbers of a width have it -/

/-- A number below a power of ten is written with so many digits at most, and with exactly so many
if it is not below the power before. -/
theorem exists_hasDigits {d : Nat} {exactly : Bool} {n : Int64} (hpos : 1 ≤ d)
    (hlow : (leastOfWidth d exactly : Int) ≤ n.toInt) (hhigh : n.toInt < (10 ^ d : Nat)) :
    ∃ shown ≤ d, (Example.number n).HasDigits shown ∧ (exactly = true → shown = d) := by
  obtain ⟨m, hm⟩ : ∃ m : Nat, n.toInt = m := Int.eq_ofNat_of_zero_le (by omega)
  have hshort : (figures m).length ≤ d :=
    (Nat.length_toDigits_le_iff (by decide) hpos).mpr (by omega)
  refine ⟨(figures m).length, hshort, Example.hasDigits_figures hm, ?_⟩
  rintro rfl
  exact length_figures_eq hpos (show leastOfWidth d true ≤ m by omega) (by omega)

/-- Whatever number of digits is asked for, no power of ten, bound, count or sum on the way to a
number leaves the words of 64 bits.  The number is not above the greatest one of its width, nor
below the least one of exactly so many digits where that is asked for; so it is written with as many
digits, or with fewer where it may be. -/
theorem numberOfDigits_fills_width (digits : Option Nat) (exactly : Bool) :
    numberInWords digits exactly = some <$> numberOfDigits digits exactly ∧
      (numberOfDigits digits exactly).Yields fun s n _ =>
        ∃ d s₁, (width digits).run s = .ok (d, s₁) ∧
          (1 ≤ d ∧ d ≤ 18) ∧ (digits = none → d ≤ 9) ∧
            (if exactly then 10 ^ (d - 1) else 0) ≤ n.toInt ∧ n.toInt ≤ 10 ^ d - 1 ∧
              ∃ shown ≤ d, (Example.number n).HasDigits shown ∧ (exactly = true → shown = d) := by
  refine ⟨numberInWords_eq digits exactly, (steady_numberOfDigits digits exactly).yields ?_⟩
  intro s n s' hrun
  obtain ⟨d, s₁, hd, hlow, hhigh⟩ := numberOfDigits_eq_ok hrun
  obtain ⟨hwidth, hdrawn⟩ := width_eq_ok hd
  have hpower : ((10 ^ d : Nat) : Int) = 10 ^ d := Int.natCast_pow 10 d
  refine ⟨d, s₁, hd, hwidth, hdrawn, ?_, by omega, exists_hasDigits hwidth.1 hlow hhigh⟩
  exact natCast_leastOfWidth d exactly ▸ hlow

/-- More digits than a word can always have are asked for, and a number of eighteen comes of it. -/
theorem numberOfDigits_fills_width_clamped :
    ∃ n s', (numberOfDigits (some 19) true).run (.ofText "a") = .ok (n, s') ∧
      10 ^ 17 ≤ n.toInt ∧ n.toInt ≤ 10 ^ 18 - 1 ∧ (Example.number n).HasDigits 18 := by
  have hreturns : ((numberOfDigits (some 19) true).run (.ofText "a")).isOk = true := by
    decide +kernel
  rcases (numberOfDigits_fills_width (some 19) true).2 (.ofText "a") with
    ⟨n, s', hrun, d, s₁, hd, -, -, hlow, hhigh, shown, -, hdigits, hexactly⟩ | ⟨hnone, -⟩
  · obtain ⟨rfl, -⟩ := pure_eq_ok.mp hd
    obtain rfl : shown = 18 := hexactly rfl
    exact ⟨n, s', hrun, hlow, hhigh, hdigits⟩
  · rw [hnone] at hreturns
    cases hreturns

end Sampler

end FieldGuide
