set_option autoImplicit false

/-!
# What is documented of a field

A field has a type, a mark that it is required, description fragments and one example value.
-/

namespace FieldGuide

/-- The types that a field can be documented with. -/
inductive FieldType where
  | string
  | integer
  | numeric
  | boolean
  | array
  | date
  | file
  | image
  | url
  | ip
  | email
  | custom
  deriving DecidableEq, Repr, Inhabited

namespace FieldType

/-- Every type, in the order of the declaration. -/
def all : List FieldType :=
  [string, integer, numeric, boolean, array, date, file, image, url, ip, email, custom]

/-- The written form of a type. -/
def name : FieldType → String
  | string => "string"
  | integer => "integer"
  | numeric => "numeric"
  | boolean => "boolean"
  | array => "array"
  | date => "date"
  | file => "file"
  | image => "image"
  | url => "url"
  | ip => "ip"
  | email => "email"
  | custom => "custom"

/-- The type with a given written form. -/
def ofName? (s : String) : Option FieldType := all.find? (·.name == s)

/-- Values of the type are numbers with an order. -/
def isNumeric : FieldType → Bool
  | numeric => true
  | integer => true
  | _ => false

end FieldType

/-- An example value. -/
inductive Example where
  /-- no value has been chosen yet -/
  | empty
  | flag (value : Bool)
  | number (value : Int64)
  | text (value : String)
  deriving DecidableEq, Repr, Inhabited

namespace Example

/-- No value has been chosen. -/
def isEmpty : Example → Bool
  | empty => true
  | _ => false

/-- The value as plain text. -/
def display : Example → String
  | empty => ""
  | flag value => if value then "true" else "false"
  | number value => toString value.toInt
  | text value => value

end Example

/-- The documentation of one field. -/
structure Entry where
  required : Bool := false
  type : Option FieldType := none
  value : Example := .empty
  /-- one fragment for every rule that described itself, in the order of the rules -/
  description : List String := []
  deriving DecidableEq, Repr, Inhabited

end FieldGuide
