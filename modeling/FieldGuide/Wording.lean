set_option autoImplicit false

/-!
# Phrases in descriptions

Values stand between backticks in descriptions.  A list of values is joined with one separator, and
its last two with another; a list of conditions alternates between names and values.
-/

namespace FieldGuide.Wording

/-- The backtick, which stands on either side of a value. -/
def tick : Char := Char.ofNat 0x60

/-- A value between backticks. -/
def mark (item : List Char) : List Char := tick :: item ++ [tick]

/-- Marked values with `sep` between them, the last two of them with `last`. -/
def enumerate (sep last : List Char) (items : List (List Char)) : List Char :=
  let marked := items.map mark
  let split := marked.length - 2
  sep.intercalate (marked.take split ++ [last.intercalate (marked.drop split)])

/-- Every value marked and with a link behind it: `is` behind names and `or` behind values. -/
def links : (named : Bool) → List (List Char) → List Char
  | _, [] => []
  | named, item :: items =>
    mark item ++ (if named then " or ".toList else " is ".toList) ++ links (!named) items

/-- A character that can belong to the link at the end of a list of conditions. -/
def isLinkEnd (c : Char) : Bool := c == 'o' || c == 'r' || c == ' '

/-- Names and values in turn, as conditions one of which holds.  The link behind the last one is
cut off. -/
def conditions (items : List (List Char)) : List Char :=
  ((links false items).reverse.dropWhile isLinkEnd).reverse

end FieldGuide.Wording
