set_option autoImplicit false

/-!
# Checksum of a seed text

The cyclic redundancy check of 32 bits with the reflected polynomial `0xedb88320`, over the UTF-8
bytes of a text.  It turns the text of a seed into a number.
-/

namespace FieldGuide.Checksum

/-- The generator polynomial, lowest bit first. -/
def polynomial : UInt32 := 0xedb88320

/-- Divides one bit out of the remainder. -/
def shift (r : UInt32) : UInt32 := if r &&& 1 = 1 then (r >>> 1) ^^^ polynomial else r >>> 1

/-- Takes one byte into the remainder. -/
def absorb (r : UInt32) (b : UInt8) : UInt32 :=
  (List.range 8).foldl (fun r _ => shift r) (r ^^^ b.toUInt32)

/-- The checksum of a list of bytes: the remainder starts and ends complemented. -/
def ofBytes (bytes : List UInt8) : UInt32 := ~~~(bytes.foldl absorb (~~~(0 : UInt32)))

/-- The checksum of a text. -/
def ofText (s : String) : UInt32 := ofBytes s.toUTF8.toList

end FieldGuide.Checksum
