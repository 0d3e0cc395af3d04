import FieldGuide.Number.Figures
set_option autoImplicit false

/-!
# Effects of a rule

What applying one rule did to the documentation of its field.
-/

namespace FieldGuide

/-- The effects that a rule had. -/
structure Effects where
  /-- it made the field required -/
  required : Bool := false
  /-- it set the type, whatever it was before -/
  forcesType : Bool := false
  /-- it set a type that had not been set -/
  defaultsType : Bool := false
  /-- it added a description fragment -/
  describes : Bool := false
  /-- it set the example value -/
  exemplifies : Bool := false
  deriving DecidableEq, Repr, Inhabited

namespace Effects

/-- The labels of the effects, in a fixed order. -/
def labels (e : Effects) : List String :=
  (if e.required then ["required"] else []) ++ (if e.forcesType then ["type!"] else []) ++
    (if e.defaultsType then ["type?"] else []) ++ (if e.describes then ["description"] else []) ++
    (if e.exemplifies then ["value"] else [])

/-- The effects whose bits are set in a number, the first effect having the lowest bit. -/
def ofBits (bits : Nat) : Effects :=
  ⟨bits.testBit 0, bits.testBit 1, bits.testBit 2, bits.testBit 3, bits.testBit 4⟩

/-- The number of effects. -/
def count : Nat := 5

/-- No bit of the number lies outside the effects. -/
def validBits (bits : Nat) : Bool := bits < 2 ^ count

end Effects

end FieldGuide
