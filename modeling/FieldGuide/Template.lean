set_option autoImplicit false

/-!
# Description templates

A placeholder is a colon, a letter and any letters and underscores behind it.  Filling a template
puts one argument after the other in the place of its placeholders.  Arguments are not searched for
placeholders; placeholders without an argument stay, arguments without a placeholder are left out.
-/

namespace FieldGuide.Template

/-- A character of a placeholder behind its first letter. -/
def continuesName (c : Char) : Bool := c.isAlpha || c == '_'

/-- A template with arguments in the place of its placeholders. -/
def fillChars : (text : List Char) → (args : List (List Char)) → List Char
  | text, [] => text
  | [], _ => []
  | [c], _ => [c]
  | colon :: c :: cs, arg :: args =>
    if colon = ':' ∧ c.isAlpha then arg ++ fillChars (cs.dropWhile continuesName) args
    else colon :: fillChars (c :: cs) (arg :: args)
termination_by text => text.length
decreasing_by
  · have := (List.dropWhile_sublist (l := cs) continuesName).length_le
    simp only [List.length_cons]
    omega
  · simp

/-- Fills a template. -/
def fill (text : String) (args : List String) : String :=
  String.ofList (fillChars text.toList (args.map String.toList))

end FieldGuide.Template
