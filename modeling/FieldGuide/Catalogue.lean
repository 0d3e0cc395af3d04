import FieldGuide.Kind
import FieldGuide.Template
set_option autoImplicit false

/-!
# The catalogue of templates

The template for the rules of a name: the one that was last supplied for exactly that name, else the
bundled one, else the name itself.
-/

namespace FieldGuide

/-- The bundled template of a kind of rules. -/
def Kind.template? : Kind → Option String
  | .after => some "Must be a date after: `:date`"
  | .alpha => some "Only alphabetic characters allowed"
  | .alphaDash => some "Allowed: alpha-numeric characters, as well as dashes and underscores."
  | .alphaNum => some "Only alpha-numeric characters allowed"
  | .before => some "Must be a date preceding: `:date`"
  | .between => some "Between: `:min` and `:max`"
  | .dateFormat => some "Date format: `:format`"
  | .different => some "Must have a different value than parameter: `:field`"
  | .digits => some "Must have an exact length of `:digits`"
  | .digitsBetween => some "Must have a length between `:min` and `:max`"
  | .existing => some "Valid :table :column"
  | .file => some "Must be a file upload"
  | .image => some "Must be an image (jpeg, png, bmp, gif, or svg)"
  | .inList => some ":values"
  | .json => some "Must be a valid JSON string."
  | .max => some "Maximum: `:max`"
  | .mimes => some "Allowed mime types: :values"
  | .mimeTypes => some "Allowed mime types: :values"
  | .min => some "Minimum: `:min`"
  | .notInList => some "Not in: :values"
  | .regex => some "Must match this regular expression: `:pattern`"
  | .requiredIf => some "Required if :condition"
  | .requiredUnless => some "Required unless :condition"
  | .requiredWith => some "Required if the parameters :fields are present."
  | .requiredWithAll => some "Required if the parameters :fields are present."
  | .requiredWithout => some "Required if the parameters :fields are not present."
  | .requiredWithoutAll => some "Required if the parameters :fields are not present."
  | .same => some "Must be the same as `:field`"
  | .size => some "Must have the size of `:size`"
  | .timezone => some "Must be a valid time zone, such as `Africa/Accra`"
  | _ => none

/-- The template text for every rule name. -/
abbrev Templates := String → String

/-- Templates that take the place of the bundled ones, the latest first. -/
structure Catalogue where
  overrides : List (String × String) := []
  deriving DecidableEq, Repr, Inhabited

namespace Catalogue

/-- The catalogue of the bundled templates. -/
def bundled : Catalogue := {}

/-- Supplies a template for the rules of a name. -/
def withTemplate (c : Catalogue) (rule template : String) : Catalogue :=
  ⟨(rule, template) :: c.overrides⟩

/-- Supplies templates in order. -/
def withTemplates (c : Catalogue) (pairs : List (String × String)) : Catalogue :=
  pairs.foldl (fun c pair => c.withTemplate pair.1 pair.2) c

/-- The bundled template for the rules of a name, or the name. -/
def bundledText (rule : String) : String := ((Kind.ofName? rule).bind Kind.template?).getD rule

/-- The template for the rules of a name. -/
def template (c : Catalogue) : Templates := fun rule =>
  (c.overrides.lookup rule).getD (bundledText rule)

end Catalogue

end FieldGuide
