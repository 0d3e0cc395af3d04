import FieldGuide.Number.Figures
set_option autoImplicit false

/-!
# Rounding to 53 binary digits

A positive ratio is rounded to the nearest number that has 53 significant binary digits and is a
multiple of the least step, a tie going to the even neighbour.  Ratios that round to a number
without a finite form have no result.  Everything is exact arithmetic on natural numbers.
-/

namespace FieldGuide.Number

/-- The number `mantissa * 2 ^ exponent`. -/
structure Dyadic where
  mantissa : Nat
  exponent : Int
  deriving DecidableEq, Repr, Inhabited

namespace Dyadic

def zero : Dyadic := ⟨0, 0⟩

/-- The greatest whole number that is not above the number. -/
def floor (x : Dyadic) : Nat :=
  if 0 ≤ x.exponent then x.mantissa * 2 ^ x.exponent.toNat
  else x.mantissa / 2 ^ (-x.exponent).toNat

end Dyadic

/-- The significant binary digits. -/
def precision : Nat := 53

/-- The exponent of the least step. -/
def leastExponent : Int := -1074

/-- The numbers from this power of two on have no finite form. -/
def overflowExponent : Nat := 1024

/-- The whole number nearest to a ratio, a tie going to the even one. -/
def roundRatio (num den : Nat) : Nat :=
  let q := num / den
  let r := num % den
  if den < 2 * r ∨ 2 * r = den ∧ q % 2 = 1 then q + 1 else q

/-- A ratio measured in steps of `2 ^ exponent`, as a ratio again. -/
def scale (num den : Nat) (exponent : Int) : Nat × Nat :=
  if 0 ≤ exponent then (num, den * 2 ^ exponent.toNat) else (num * 2 ^ (-exponent).toNat, den)

/-- The exponent of the steps to which a ratio is rounded: the greatest for which 53 digits are
left, and never below the least one. -/
def stepExponent (num den : Nat) : Int :=
  let e := max ((bitLength num : Int) - bitLength den - precision) leastExponent
  let (n, d) := scale num den e
  if 2 ^ precision ≤ n / d then e + 1 else e

/-- The number nearest to a ratio, if it is finite. -/
def nearest? (num den : Nat) : Option Dyadic :=
  if num = 0 then some .zero
  else
    let e := stepExponent num den
    let (n, d) := scale num den e
    let m := roundRatio n d
    if 0 ≤ e ∧ 2 ^ overflowExponent ≤ m * 2 ^ e.toNat then none else some ⟨m, e⟩

end FieldGuide.Number
