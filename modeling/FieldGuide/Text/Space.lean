import FieldGuide.Text.CodeRange
set_option autoImplicit false

/-!
# White space

The characters with the property White_Space, and the texts that are left when they are cut from
one end or both.
-/

namespace FieldGuide.Text

/-- The code points with the property White_Space. -/
def spaceRanges : CodeRanges :=
  [(0x9, 0xd), (0x20, 0x20), (0x85, 0x85), (0xa0, 0xa0), (0x1680, 0x1680), (0x2000, 0x200a),
   (0x2028, 0x2029), (0x202f, 0x202f), (0x205f, 0x205f), (0x3000, 0x3000)]

/-- A character with the property White_Space. -/
def isSpace (c : Char) : Bool := spaceRanges.contains c

/-- The text from its first character that is no space. -/
def trimStart (cs : List Char) : List Char := cs.dropWhile isSpace

/-- The text up to its last character that is no space. -/
def trimEnd (cs : List Char) : List Char := (cs.reverse.dropWhile isSpace).reverse

/-- The text without the spaces at its two ends. -/
def trim (cs : List Char) : List Char := trimEnd (trimStart cs)

/-- Only spaces, or nothing at all. -/
def isBlank (cs : List Char) : Bool := cs.all isSpace

theorem trimStart_nil : trimStart [] = [] := rfl

theorem trimStart_of_isSpace {c : Char} (h : isSpace c = true) (cs : List Char) :
    trimStart (c :: cs) = trimStart cs := by
  simp [trimStart, h]

theorem trimStart_of_not_isSpace {c : Char} (h : isSpace c = false) (cs : List Char) :
    trimStart (c :: cs) = c :: cs := by
  simp [trimStart, h]

end FieldGuide.Text
