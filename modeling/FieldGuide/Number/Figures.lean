set_option autoImplicit false

/-!
# Figures

Natural numbers in decimal figures, and the numbers that runs of figures stand for.
-/

-- A power is the core library's power here and in every module above, whatever it imports besides.
attribute [instance (high), default_instance 20000] instPowNat

namespace FieldGuide.Number

/-- The figures of a number, without a leading zero. -/
def figures (n : Nat) : List Char := Nat.toDigits 10 n

/-- The number that a run of figures stands for. -/
def ofFigures (cs : List Char) : Nat := Nat.ofDigitChars 10 cs 0

theorem ofFigures_figures (n : Nat) : ofFigures (figures n) = n := by
  simp [ofFigures, figures, Nat.ofDigitChars_toDigits]

theorem length_figures_pos (n : Nat) : 0 < (figures n).length := Nat.length_toDigits_pos

/-- The bits that a number takes to write. -/
def bitLength (n : Nat) : Nat := if n = 0 then 0 else n.log2 + 1

end FieldGuide.Number
