import FieldGuide.Entry
set_option autoImplicit false

/-!
# Kinds of rules

The rules that are known, and what each of them can do to the documentation of a field: make it
required, set its type, add a description fragment and choose an example value.  The table `spec`
says which of these a kind does and in which way; how they are done is not said here.
-/

namespace FieldGuide

/-- The kinds of rules. -/
inductive Kind where
  | required
  | accepted
  | requiredIf
  | requiredUnless
  | requiredWith
  | requiredWithAll
  | requiredWithout
  | requiredWithoutAll
  | boolean
  | array
  | date
  | email
  | string
  | integer
  | numeric
  | url
  | activeUrl
  | ip
  | json
  | file
  | image
  | custom
  | min
  | max
  | between
  | size
  | digits
  | digitsBetween
  | after
  | before
  | dateFormat
  | timezone
  | alpha
  | alphaDash
  | alphaNum
  | inList
  | notInList
  | mimes
  | mimeTypes
  | different
  | same
  | regex
  | existing
  deriving DecidableEq, Repr, Inhabited

/-- What a rule does to the type of its field. -/
inductive Typing where
  | keep
  /-- sets the type -/
  | force (type : FieldType)
  /-- sets the type if it is not set -/
  | fallback (type : FieldType)
  deriving DecidableEq, Repr, Inhabited

/-- How the arguments of a description come from the parameters of its rule. -/
inductive Describing where
  /-- no argument -/
  | bare
  /-- the first parameter -/
  | first
  /-- the first two parameters -/
  | pair
  /-- all parameters as one phrase, one of which applies -/
  | anyOf
  /-- all parameters as one phrase, all of which apply -/
  | allOf
  /-- all parameters as one phrase of conditions -/
  | conditions
  /-- the first parameter, read as a date -/
  | bound
  /-- the first parameter in the singular, and the second or the name of the field -/
  | tableAndColumn
  deriving DecidableEq, Repr, Inhabited

/-- How an example value is chosen. -/
inductive Exemplifying where
  /-- always the same value -/
  | fixed (value : Example)
  | word
  | number
  | date
  | email
  | url
  | address
  /-- a number from the first parameter on, if the field is numeric -/
  | atLeast
  /-- a number up to the first parameter, if the field is numeric -/
  | atMost
  /-- a number between the first two parameters -/
  | within
  /-- as many digits as the first parameter says -/
  | digits
  /-- the date of the first parameter, some days later -/
  | dayFromBound (days : Int)
  /-- the reference time in the format of the first parameter -/
  | referenceTime
  | timezone
  /-- one of the parameters -/
  | member
  deriving DecidableEq, Repr, Inhabited

/-- What a kind of rule does. -/
structure Spec where
  required : Bool := false
  typing : Typing := .keep
  describing : Option Describing := none
  exemplifying : Option Exemplifying := none
  deriving DecidableEq, Repr, Inhabited

namespace Kind

/-- Every kind. -/
def all : List Kind :=
  [required, accepted, requiredIf, requiredUnless, requiredWith, requiredWithAll,
   requiredWithout, requiredWithoutAll, boolean, array, date, email, string, integer, numeric, url,
   activeUrl, ip, json, file, image, custom, min, max, between, size, digits, digitsBetween, after,
   before, dateFormat, timezone, alpha, alphaDash, alphaNum, inList, notInList, mimes, mimeTypes,
   different, same, regex, existing]

/-- The name of the rules of a kind. -/
def name : Kind → String
  | required => "required"
  | accepted => "accepted"
  | requiredIf => "required_if"
  | requiredUnless => "required_unless"
  | requiredWith => "required_with"
  | requiredWithAll => "required_with_all"
  | requiredWithout => "required_without"
  | requiredWithoutAll => "required_without_all"
  | boolean => "boolean"
  | array => "array"
  | date => "date"
  | email => "email"
  | string => "string"
  | integer => "integer"
  | numeric => "numeric"
  | url => "url"
  | activeUrl => "active_url"
  | ip => "ip"
  | json => "json"
  | file => "file"
  | image => "image"
  | custom => "custom"
  | min => "min"
  | max => "max"
  | between => "between"
  | size => "size"
  | digits => "digits"
  | digitsBetween => "digits_between"
  | after => "after"
  | before => "before"
  | dateFormat => "date_format"
  | timezone => "timezone"
  | alpha => "alpha"
  | alphaDash => "alpha_dash"
  | alphaNum => "alpha_num"
  | inList => "in"
  | notInList => "not_in"
  | mimes => "mimes"
  | mimeTypes => "mimetypes"
  | different => "different"
  | same => "same"
  | regex => "regex"
  | existing => "exists"

/-- The kind of the rules with a name. -/
def ofName? (name : String) : Option Kind := all.find? (·.name == name)

/-- The text of an example of JSON. -/
def jsonExample : String := "[\"foo\",\"bar\",\"baz\"]"

/-- What the rules of a kind do. -/
def spec : Kind → Spec
  | required => { required := true }
  | accepted =>
    { required := true, typing := .force .boolean, exemplifying := some (.fixed (.flag true)) }
  | requiredIf => { describing := some .conditions }
  | requiredUnless => { describing := some .conditions }
  | requiredWith => { describing := some .anyOf }
  | requiredWithAll => { describing := some .allOf }
  | requiredWithout => { describing := some .anyOf }
  | requiredWithoutAll => { describing := some .allOf }
  | boolean => { typing := .force .boolean, exemplifying := some (.fixed (.flag true)) }
  | array => { typing := .force .array, exemplifying := some .word }
  | date => { typing := .force .date, exemplifying := some .date }
  | email => { typing := .force .email, exemplifying := some .email }
  | string => { typing := .force .string, exemplifying := some .word }
  | integer => { typing := .force .integer, exemplifying := some .number }
  | numeric => { typing := .force .numeric, exemplifying := some .number }
  | url => { typing := .force .url, exemplifying := some .url }
  | activeUrl => { typing := .force .url, exemplifying := some .url }
  | ip => { typing := .force .ip, exemplifying := some .address }
  | json =>
    { typing := .force .string
      describing := some .bare
      exemplifying := some (.fixed (.text jsonExample)) }
  | file => { typing := .force .file, describing := some .bare }
  | image => { typing := .force .image, describing := some .bare }
  | custom => { typing := .force .custom, exemplifying := some (.fixed (.text "oi")) }
  | min => { describing := some .first, exemplifying := some .atLeast }
  | max => { describing := some .first, exemplifying := some .atMost }
  | between =>
    { typing := .fallback .numeric, describing := some .pair, exemplifying := some .within }
  | size => { describing := some .first }
  | digits =>
    { typing := .force .numeric, describing := some .first, exemplifying := some .digits }
  | digitsBetween => { typing := .force .numeric, describing := some .pair }
  | after =>
    { typing := .force .date
      describing := some .bound
      exemplifying := some (.dayFromBound 1) }
  | before =>
    { typing := .force .date
      describing := some .bound
      exemplifying := some (.dayFromBound (-1)) }
  | dateFormat =>
    { typing := .force .date, describing := some .first, exemplifying := some .referenceTime }
  | timezone => { describing := some .bare, exemplifying := some .timezone }
  | alpha => { describing := some .bare, exemplifying := some .word }
  | alphaDash => { describing := some .bare }
  | alphaNum => { describing := some .bare }
  | inList => { describing := some .anyOf, exemplifying := some .member }
  | notInList => { describing := some .anyOf, exemplifying := some .word }
  | mimes => { describing := some .anyOf }
  | mimeTypes => { describing := some .anyOf }
  | different => { describing := some .first }
  | same => { describing := some .first }
  | regex => { typing := .force .string, describing := some .first }
  | existing => { describing := some .tableAndColumn }

end Kind

end FieldGuide
