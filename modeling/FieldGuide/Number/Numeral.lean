import FieldGuide.Number.Binary
set_option autoImplicit false

/-!
# Decimal numerals

A numeral is an optional sign, decimal figures with at most one point among or around them, and an
optional exponent to the base ten.  Read as a whole number it is taken exactly if it consists of a
sign and figures only and fits into 64 bits; otherwise it is rounded to 53 binary digits and cut
off at the point.
-/

namespace FieldGuide.Number

/-- The number `digits * 10 ^ exponent`, or its negative. -/
structure Numeral where
  negative : Bool
  digits : Nat
  exponent : Int
  deriving DecidableEq, Repr, Inhabited

/-- A sign at the front of a text, and the rest. -/
def cutSign : List Char → Bool × List Char
  | '-' :: cs => (true, cs)
  | '+' :: cs => (false, cs)
  | cs => (false, cs)

/-- A non-empty run of figures and nothing else. -/
def natural? (cs : List Char) : Option Nat :=
  if cs ≠ [] ∧ cs.all Char.isDigit then some (ofFigures cs) else none

/-- A whole number with an optional sign. -/
def whole? (cs : List Char) : Option Int :=
  let (negative, rest) := cutSign cs
  (natural? rest).map fun n => if negative then -(n : Int) else n

/-- The exponent at the end of a numeral: nothing, or a letter `e` and a whole number. -/
def exponent? : List Char → Option Int
  | [] => some 0
  | c :: cs => if c = 'e' ∨ c = 'E' then whole? cs else none

namespace Numeral

/-- The figures behind the point, if there is a point, and what follows. -/
def cutFraction : List Char → List Char × List Char
  | '.' :: cs => (cs.takeWhile Char.isDigit, cs.dropWhile Char.isDigit)
  | cs => ([], cs)

/-- Reads a numeral; there must be a figure before the point or behind it. -/
def read? (cs : List Char) : Option Numeral :=
  let (negative, cs) := cutSign cs
  let before := cs.takeWhile Char.isDigit
  let (behind, cs) := cutFraction (cs.dropWhile Char.isDigit)
  if before = [] ∧ behind = [] then none
  else
    (exponent? cs).map fun e =>
      ⟨negative, ofFigures (before ++ behind), e - behind.length⟩

/-- The size of a numeral rounded to 53 binary digits, if it is finite.  Sizes that are far out of
range are not computed. -/
def round? (x : Numeral) : Option Dyadic :=
  if x.digits = 0 then some .zero
  else
    let top : Int := x.exponent + (figures x.digits).length
    if 310 < top then none
    else if top < -330 then some .zero
    else if 0 ≤ x.exponent then nearest? (x.digits * 10 ^ x.exponent.toNat) 1
    else nearest? x.digits (10 ^ (-x.exponent).toNat)

/-- The rounded numeral without its fraction, if it is finite. -/
def truncate? (x : Numeral) : Option Int :=
  x.round?.map fun r => if x.negative then -(r.floor : Int) else r.floor

end Numeral

/-- The whole number of 64 bits nearest to a whole number. -/
def saturate (n : Int) : Int64 :=
  if n < Int64.minValue.toInt then Int64.minValue
  else if Int64.maxValue.toInt < n then Int64.maxValue
  else Int64.ofInt n

/-- A whole number of 64 bits written with figures only. -/
def inRange? (cs : List Char) : Option Int64 :=
  (whole? cs).bind fun n =>
    if Int64.minValue.toInt ≤ n ∧ n ≤ Int64.maxValue.toInt then some (Int64.ofInt n) else none

/-- The whole number of 64 bits that a numeral stands for. -/
def integer? (cs : List Char) : Option Int64 :=
  inRange? cs <|> ((Numeral.read? cs).bind Numeral.truncate?).map saturate

end FieldGuide.Number
