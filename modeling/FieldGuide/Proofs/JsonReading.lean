import FieldGuide.Json
set_option autoImplicit false

/-!
# Reading JSON text

A reader of the JSON grammar, made without regard to how values are written here: blanks may stand
around every token, a string may hold any of the escapes in either case of the hexadecimal digits,
two escaped surrogates are one character, and a number may have a fraction and an exponent.  Raw
control characters, lone surrogates, leading zeros, items that are missing behind a comma, and
anything behind the value are refused.  A number that is not whole is refused too, since a JSON
value has no place for it here.
-/

namespace FieldGuide.Json

/-! ## Blanks -/

/-- The characters that may stand between tokens. -/
def isBlank (c : Char) : Bool := c == ' ' || c == '\t' || c == '\n' || c == '\r'

/-- The text from its first token. -/
def skipBlanks (cs : List Char) : List Char := cs.dropWhile isBlank

/-- The text behind a character that has to be the first token. -/
def readToken (token : Char) (cs : List Char) : Option (List Char) :=
  match skipBlanks cs with
  | [] => none
  | c :: rest => if c = token then some rest else none

/-! ## Strings -/

/-- The value of a hexadecimal digit. -/
def hexValue? (c : Char) : Option Nat :=
  if '0' ≤ c ∧ c ≤ '9' then some (c.toNat - 0x30)
  else if 'a' ≤ c ∧ c ≤ 'f' then some (c.toNat - 0x57)
  else if 'A' ≤ c ∧ c ≤ 'F' then some (c.toNat - 0x37)
  else none

/-- The number of four hexadecimal digits. -/
def codeOfDigits? (a b c d : Char) : Option Nat := do
  return (((← hexValue? a) * 16 + (← hexValue? b)) * 16 + (← hexValue? c)) * 16 + (← hexValue? d)

/-- What a backslash and one more character stand for. -/
def shortEscape? : Char → Option Char
  | '"' => some '"'
  | '\\' => some '\\'
  | '/' => some '/'
  | 'b' => some (Char.ofNat 8)
  | 'f' => some (Char.ofNat 12)
  | 'n' => some '\n'
  | 'r' => some '\r'
  | 't' => some '\t'
  | _ => none

/-- A part of a string: a character, or one code unit of 16 bits that has been escaped. -/
inductive Piece where
  | char (c : Char)
  | code (n : Nat)
  deriving DecidableEq, Repr, Inhabited

/-- The pieces of a string up to its closing quote, and the text behind it. -/
def readPieces : List Char → Option (List Piece × List Char)
  | [] => none
  | '"' :: rest => some ([], rest)
  | '\\' :: 'u' :: a :: b :: c :: d :: rest => do
    let n ← codeOfDigits? a b c d
    (readPieces rest).map fun p => (.code n :: p.1, p.2)
  | '\\' :: c :: rest => do
    let plain ← shortEscape? c
    (readPieces rest).map fun p => (.char plain :: p.1, p.2)
  | c :: rest =>
    if c = '\\' ∨ c.toNat < 0x20 then none
    else (readPieces rest).map fun p => (.char c :: p.1, p.2)

/-- The first half of a character beyond U+FFFF. -/
def isHighSurrogate (n : Nat) : Bool := 0xd800 ≤ n && n < 0xdc00

/-- The second half of a character beyond U+FFFF. -/
def isLowSurrogate (n : Nat) : Bool := 0xdc00 ≤ n && n < 0xe000

/-- The characters of pieces; two halves are one character, and no half stands alone. -/
def joinPieces : List Piece → Option (List Char)
  | [] => some []
  | .char c :: pieces => (joinPieces pieces).map (c :: ·)
  | .code n :: .code m :: pieces =>
    if isHighSurrogate n then
      if isLowSurrogate m then
        (joinPieces pieces).map
          (Char.ofNat (0x10000 + (n - 0xd800) * 0x400 + (m - 0xdc00)) :: ·)
      else none
    else if isLowSurrogate n then none
    else (joinPieces (.code m :: pieces)).map (Char.ofNat n :: ·)
  | .code n :: pieces =>
    if isHighSurrogate n || isLowSurrogate n then none
    else (joinPieces pieces).map (Char.ofNat n :: ·)

/-- The characters of a string up to its closing quote, and the text behind it. -/
def readCharacters (cs : List Char) : Option (List Char × List Char) := do
  let (pieces, rest) ← readPieces cs
  (joinPieces pieces).map (·, rest)

/-- The string whose opening quote has been read, and the text behind it. -/
def readString (cs : List Char) : Option (String × List Char) :=
  (readCharacters cs).map fun p => (String.ofList p.1, p.2)

/-! ## Numbers -/

/-- Figures, one at least, and the text behind them. -/
def readFigures (cs : List Char) : Option (List Char × List Char) :=
  match cs.takeWhile Char.isDigit with
  | [] => none
  | figures => some (figures, cs.dropWhile Char.isDigit)

/-- The figures behind a point, if there is one. -/
def readFraction : List Char → Option (List Char × List Char)
  | '.' :: rest => readFigures rest
  | cs => some ([], cs)

/-- Figures with a sign or without one. -/
def readPower : List Char → Option (Int × List Char)
  | '-' :: rest => (readFigures rest).map fun p => (-(Number.ofFigures p.1 : Int), p.2)
  | '+' :: rest => (readFigures rest).map fun p => ((Number.ofFigures p.1 : Int), p.2)
  | cs => (readFigures cs).map fun p => ((Number.ofFigures p.1 : Int), p.2)

/-- An exponent, if there is one. -/
def readExponent : List Char → Option (Int × List Char)
  | [] => some (0, [])
  | c :: cs => if c = 'e' ∨ c = 'E' then readPower cs else some (0, c :: cs)

/-- The number of some figures with others behind the point and an exponent, if it is whole. -/
def whole? (figures fraction : List Char) (exponent : Int) : Option Nat :=
  let coefficient := Number.ofFigures (figures ++ fraction)
  let power := exponent - fraction.length
  if 0 ≤ power then some (coefficient * 10 ^ power.toNat)
  else if coefficient % 10 ^ (-power).toNat = 0 then some (coefficient / 10 ^ (-power).toNat)
  else none

/-- A number without a sign. -/
def readUnsigned (cs : List Char) : Option (Nat × List Char) := do
  let (figures, rest) ← readFigures cs
  if figures.head? = some '0' ∧ 1 < figures.length then none
  else
    let (fraction, rest) ← readFraction rest
    let (exponent, rest) ← readExponent rest
    return (← whole? figures fraction exponent, rest)

/-- A number. -/
def readNumber : List Char → Option (Int × List Char)
  | '-' :: rest => (readUnsigned rest).map fun p => (-(p.1 : Int), p.2)
  | cs => (readUnsigned cs).map fun p => ((p.1 : Int), p.2)

/-! ## Values -/

/-- The name of a member, and the text behind its colon. -/
def readName (cs : List Char) : Option (String × List Char) := do
  let (name, rest) ← readString (← readToken '"' cs)
  return (name, ← readToken ':' rest)

mutual

/-- Reads a value in a number of steps. -/
def readValue : (steps : Nat) → List Char → Option (Json × List Char)
  | 0, _ => none
  | steps + 1, cs =>
    match skipBlanks cs with
    | [] => none
    | c :: rest =>
      if c = '-' ∨ c.isDigit then (readNumber (c :: rest)).map fun p => (.number p.1, p.2)
      else match c, rest with
      | 'n', 'u' :: 'l' :: 'l' :: rest => some (.null, rest)
      | 't', 'r' :: 'u' :: 'e' :: rest => some (.bool true, rest)
      | 'f', 'a' :: 'l' :: 's' :: 'e' :: rest => some (.bool false, rest)
      | '"', rest => (readString rest).map fun p => (.string p.1, p.2)
      | '[', rest =>
        match readToken ']' rest with
        | some rest => some (.array [], rest)
        | none => do
          let (item, rest) ← readValue steps rest
          let (items, rest) ← readItems steps rest
          return (.array (item :: items), rest)
      | '\x7b', rest =>
        match readToken '\x7d' rest with
        | some rest => some (.object [], rest)
        | none => do
          let (name, rest) ← readName rest
          let (value, rest) ← readValue steps rest
          let (members, rest) ← readMembers steps rest
          return (.object ((name, value) :: members), rest)
      | _, _ => none

/-- Reads the items behind the first one, and the end of their array. -/
def readItems : (steps : Nat) → List Char → Option (List Json × List Char)
  | 0, _ => none
  | steps + 1, cs =>
    match skipBlanks cs with
    | ']' :: rest => some ([], rest)
    | ',' :: rest => do
      let (item, rest) ← readValue steps rest
      let (items, rest) ← readItems steps rest
      return (item :: items, rest)
    | _ => none

/-- Reads the members behind the first one, and the end of their object. -/
def readMembers : (steps : Nat) → List Char → Option (List (String × Json) × List Char)
  | 0, _ => none
  | steps + 1, cs =>
    match skipBlanks cs with
    | '\x7d' :: rest => some ([], rest)
    | ',' :: rest => do
      let (name, rest) ← readName rest
      let (value, rest) ← readValue steps rest
      let (members, rest) ← readMembers steps rest
      return ((name, value) :: members, rest)
    | _ => none

end

/-- The value of a text, if it is JSON.  Every step takes a character off the text, so there are
steps enough. -/
def read? (text : String) : Option Json :=
  match readValue text.toList.length text.toList with
  | some (value, rest) => if skipBlanks rest = [] then some value else none
  | none => none

end FieldGuide.Json
