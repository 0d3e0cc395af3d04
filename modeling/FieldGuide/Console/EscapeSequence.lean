set_option autoImplicit false

/-!
# Escape sequences

What is left of a text where escape sequences are not understood.  A sequence starts with the escape
character, and the characters behind it decide how far it goes.  Controls other than tabs and line
ends are left out as well.

`plain` goes through a text once.  A tab or line end inside a sequence is shown, and so is what
follows it, until the next control: only there is the sequence taken up again.
-/

namespace FieldGuide.Console

/-- How far the reader has come in an escape sequence. -/
inductive Phase where
  /-- in no sequence -/
  | text
  /-- behind the escape character -/
  | escape
  /-- in a sequence that ends with its first character from `0` on -/
  | intermediate
  /-- behind an opening bracket: the sequence ends with its first character from `@` on -/
  | control
  /-- at the start of a device control string -/
  | deviceEntry
  /-- in the parameters of a device control string -/
  | deviceParameter
  /-- behind the parameters of a device control string -/
  | deviceIntermediate
  /-- in a string that runs to a string terminator -/
  | string
  /-- in a command to the system, which runs to a bell -/
  | command
  deriving DecidableEq, Repr, Inhabited

/-- The escape character. -/
def escapeChar : Char := Char.ofNat 0x1b

/-- A character that takes the reader out of every sequence. -/
def cancels (c : Char) : Bool := c.toNat == 0x18 || c.toNat == 0x1a

/-- The byte that terminates strings. -/
def stringTerminator : UInt8 := 0x9c

/-- The byte that terminates strings occurs in the character. -/
def terminates (c : Char) : Bool := (String.utf8EncodeChar c).contains stringTerminator

/-- A tab or line end. -/
def isBreak (c : Char) : Bool := [0x9, 0xa, 0xc, 0xd].contains c.toNat

/-- A character that is shown outside of sequences. -/
def isShown (c : Char) : Bool := isBreak c || 0x20 ≤ c.toNat && c.toNat != 0x7f

namespace Phase

/-- The reader shows the character. -/
def shows (c : Char) : Phase → Bool
  | text => isShown c
  | escape => isBreak c
  | intermediate => isBreak c
  | control => isBreak c
  | _ => false

/-- The phase behind a character that follows the escape character. -/
def begun (n : Nat) : Phase :=
  if n < 0x20 || 0x7f ≤ n then escape
  else if n < 0x30 then intermediate
  else if n = 0x50 then deviceEntry
  else if n = 0x58 || n = 0x5e || n = 0x5f then string
  else if n = 0x5b then control
  else if n = 0x5d then command
  else text

/-- The code point lies in a range. -/
def lies (n low high : Nat) : Bool := low ≤ n && n ≤ high

/-- The phase behind a character that is not shown. -/
def next (c : Char) (p : Phase) : Phase :=
  let n := c.toNat
  if c = escapeChar then escape
  else if cancels c then text
  else match p with
    | text => text
    | escape => begun n
    | intermediate => if lies n 0x30 0x7e then text else intermediate
    | control => if lies n 0x40 0x7e then text else control
    | deviceEntry =>
      if lies n 0x20 0x2f then deviceIntermediate
      else if lies n 0x30 0x3f then deviceParameter
      else if lies n 0x40 0x7e then string
      else deviceEntry
    | deviceParameter =>
      if lies n 0x20 0x2f then deviceIntermediate
      else if lies n 0x3c 0x7e then string
      else deviceParameter
    | deviceIntermediate => if lies n 0x30 0x7e then string else deviceIntermediate
    | string => if terminates c then text else string
    | command => if n = 7 then text else command

/-- The phase to which the reader returns after a character that is shown.  A character beyond ASCII
ends every sequence. -/
def resumed (c : Char) (p : Phase) : Phase := if 0x80 ≤ c.toNat then text else p

end Phase

/-- The characters that are shown of the rest of a text.  Once a character is shown, so are all that
follow up to the next control. -/
def plainFrom : Phase → (showing : Bool) → List Char → List Char
  | _, _, [] => []
  | p, showing, c :: cs =>
    if (if showing then Phase.text else p).shows c then c :: plainFrom (p.resumed c) true cs
    else plainFrom (p.next c) false cs

/-- A text without escape sequences and controls. -/
def plain (s : String) : String := String.ofList (plainFrom .text false s.toList)

/-- The characters of the first line of a text; a carriage return at its end does not belong to
it. -/
def firstLineChars (cs : List Char) : List Char :=
  let line := cs.takeWhile (· ≠ '\n')
  if line.length < cs.length ∧ line.getLast? = some '\r' then line.dropLast else line

/-- The first line of a text. -/
def firstLine (s : String) : String := String.ofList (firstLineChars s.toList)

end FieldGuide.Console
