import FieldGuide.Number.Figures
import FieldGuide.Parameters
set_option autoImplicit false

/-!
# JSON text

JSON values with their members in order, and the two layouts in which they are written: compact,
without any space, and pretty, with one item to a line and two spaces of indentation for each
level.  Of a string only quotes, backslashes and control characters below U+0020 are escaped.
-/

namespace FieldGuide

/-- A JSON value.  Numbers are whole; the members of an object keep their order. -/
inductive Json where
  | null
  | bool (value : Bool)
  | number (value : Int)
  | string (value : String)
  | array (items : List Json)
  | object (members : List (String × Json))
  deriving Repr, Inhabited

namespace Json

/-- How the items of arrays and objects are set. -/
inductive Layout where
  | compact
  | pretty
  deriving DecidableEq, Repr, Inhabited

/-- One digit of a Unicode escape, in lower case. -/
def hexDigit (n : Nat) : Char := Nat.digitChar (n % 16)

/-- The written form of a character inside a string. -/
def escape (c : Char) : List Char :=
  if c = '"' then ['\\', '"']
  else if c = '\\' then ['\\', '\\']
  else if c.toNat = 8 then ['\\', 'b']
  else if c.toNat = 9 then ['\\', 't']
  else if c.toNat = 10 then ['\\', 'n']
  else if c.toNat = 12 then ['\\', 'f']
  else if c.toNat = 13 then ['\\', 'r']
  else if c.toNat < 0x20 then ['\\', 'u', '0', '0', hexDigit (c.toNat / 16), hexDigit c.toNat]
  else [c]

/-- A string between its quotes. -/
def writeString (s : String) : List Char := '"' :: s.toList.flatMap escape ++ ['"']

/-- A whole number in decimal digits. -/
def writeNumber (n : Int) : List Char :=
  if n < 0 then '-' :: Number.figures n.natAbs else Number.figures n.natAbs

/-- What stands in front of an item at a given depth: in the pretty layout a new line. -/
def Layout.lead : Layout → Nat → List Char
  | compact, _ => []
  | pretty, depth => '\n' :: List.replicate (2 * depth) ' '

/-- What stands between a name and its value. -/
def Layout.colon : Layout → List Char
  | compact => [':']
  | pretty => [':', ' ']

mutual

/-- The text of a value that stands at a given depth. -/
def writeAt (layout : Layout) (depth : Nat) : Json → List Char
  | null => "null".toList
  | bool value => if value then "true".toList else "false".toList
  | number value => writeNumber value
  | string value => writeString value
  | array [] => ['[', ']']
  | array (item :: items) =>
    '[' :: layout.lead (depth + 1) ++ writeAt layout (depth + 1) item ++
      writeItems layout depth items ++ layout.lead depth ++ [']']
  | object [] => ['\x7b', '\x7d']
  | object ((name, value) :: members) =>
    '\x7b' :: layout.lead (depth + 1) ++ writeString name ++ layout.colon ++
      writeAt layout (depth + 1) value ++ writeMembers layout depth members ++
      layout.lead depth ++ ['\x7d']

/-- The text of the items behind the first one. -/
def writeItems (layout : Layout) (depth : Nat) : List Json → List Char
  | [] => []
  | item :: items =>
    ',' :: layout.lead (depth + 1) ++ writeAt layout (depth + 1) item ++
      writeItems layout depth items

/-- The text of the members behind the first one. -/
def writeMembers (layout : Layout) (depth : Nat) : List (String × Json) → List Char
  | [] => []
  | (name, value) :: members =>
    ',' :: layout.lead (depth + 1) ++ writeString name ++ layout.colon ++
      writeAt layout (depth + 1) value ++ writeMembers layout depth members

end

/-- The text of a value. -/
def write (layout : Layout) (value : Json) : String := String.ofList (writeAt layout 0 value)

end Json

/-- A type is written as its name. -/
def FieldType.toJson (t : FieldType) : Json := .string t.name

/-- An example is written as a bare value; the value that has not been chosen is null. -/
def Example.toJson : Example → Json
  | .empty => .null
  | .flag value => .bool value
  | .number value => .number value.toInt
  | .text value => .string value

/-- An entry is an object with four members. -/
def Entry.toJson (e : Entry) : Json :=
  .object
    [("required", .bool e.required),
     ("type", (e.type.map FieldType.toJson).getD .null),
     ("value", e.value.toJson),
     ("description", .array (e.description.map .string))]

/-- Parameters are an object with a member for every name. -/
def Parameters.toJson (p : Parameters) : Json :=
  .object (p.toList.map fun pair => (pair.1, pair.2.toJson))

end FieldGuide
