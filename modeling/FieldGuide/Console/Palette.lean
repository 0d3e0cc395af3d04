set_option autoImplicit false

/-!
# Colours

Texts in colours, between escape sequences that a terminal understands.  With colours off every text
stays as it is.
-/

namespace FieldGuide.Console

/-- Colours are on or off. -/
structure Palette where
  coloured : Bool
  deriving DecidableEq, Repr, Inhabited

namespace Palette

/-- An escape sequence that switches a style on, or all of them off. -/
def style (code : String) : String := "\x1b[" ++ code ++ "m"

/-- A text in a style, if colours are on. -/
def paint (p : Palette) (code text : String) : String :=
  if p.coloured then style code ++ text ++ style "0" else text

def bold (p : Palette) : String → String := p.paint "1"
def dim (p : Palette) : String → String := p.paint "2"
def red (p : Palette) : String → String := p.paint "31"
def green (p : Palette) : String → String := p.paint "32"
def yellow (p : Palette) : String → String := p.paint "33"
def blue (p : Palette) : String → String := p.paint "34"
def cyan (p : Palette) : String → String := p.paint "36"
def gray (p : Palette) : String → String := p.paint "90"

end Palette

end FieldGuide.Console
