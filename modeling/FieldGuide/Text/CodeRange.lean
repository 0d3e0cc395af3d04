set_option autoImplicit false

/-!
# Code point ranges

Character properties are kept as lists of closed code point ranges in ascending order.  This module
fixes what membership in such a list means; the modules named for a property hold its ranges.
-/

namespace FieldGuide.Text

/-- Closed ranges of code points, in ascending order. -/
abbrev CodeRanges := List (Nat × Nat)

/-- The code point of `c` lies in one of the ranges. -/
def CodeRanges.contains (ranges : CodeRanges) (c : Char) : Bool :=
  ranges.any fun r => r.1 ≤ c.toNat && c.toNat ≤ r.2

end FieldGuide.Text
