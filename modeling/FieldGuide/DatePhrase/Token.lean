import FieldGuide.Number.Figures
import FieldGuide.Text.Space
import FieldGuide.Text.Letter
set_option autoImplicit false

/-!
# Tokens of a date phrase

A date phrase is read one token at a time.  Spaces in front of a token are skipped.  U+0000 right
behind a token ends the phrase like the end of the text; behind spaces it is a symbol like others.
-/

namespace FieldGuide.DatePhrase

/-- A token. -/
inductive Token where
  /-- the end of the phrase, however often it is asked for -/
  | ending
  /-- a run of decimal figures -/
  | number (value : Nat)
  /-- a letter or underscore and the letters, numbers and underscores behind it -/
  | word (text : List Char)
  /-- text between quotes -/
  | quoted
  /-- a run of figures above 63 bits, or a quotation without an end -/
  | malformed
  /-- any other character -/
  | symbol (c : Char)
  deriving DecidableEq, Repr, Inhabited

/-- The character that ends a phrase early, unless spaces stand before it. -/
def stop : Char := Char.ofNat 0

/-- The quotes between which text can stand. -/
def quotes : List Char := ['"', Char.ofNat 0x27]

/-- A word can start with the character. -/
def startsWord (c : Char) : Bool := Text.isAlphabetic c || c == '_'

/-- A word can go on with the character. -/
def continuesWord (c : Char) : Bool := Text.isAlphanumeric c || c == '_'

/-- The token of a run of figures. -/
def numberToken (figures : List Char) : Token :=
  let n := Number.ofFigures figures
  if n < 2 ^ 63 then .number n else .malformed

/-- A quotation whose first quote has been taken, and the text behind its last quote.  The first
character of the quoted text belongs to it even if it is a quote, so no quotation is empty. -/
def quotation (quote : Char) (cs : List Char) : Token × List Char :=
  match (cs.drop 1).dropWhile (· ≠ quote) with
  | [] => (.malformed, [])
  | _ :: rest => (.quoted, rest)

/-- The token at the front of a text that starts with no space, and what is left. -/
def tokenAt : List Char → Token × List Char
  | [] => (.ending, [])
  | c :: cs =>
    if c.isDigit then
      (numberToken (c :: cs.takeWhile Char.isDigit), cs.dropWhile Char.isDigit)
    else if startsWord c then
      (.word (c :: cs.takeWhile continuesWord), cs.dropWhile continuesWord)
    else if quotes.contains c then quotation c cs
    else (.symbol c, cs)

/-- The next token of a text, and what is left. -/
def nextToken (cs : List Char) : Token × List Char :=
  if cs.head? = some stop then (.ending, cs) else tokenAt (Text.trimStart cs)

end FieldGuide.DatePhrase
