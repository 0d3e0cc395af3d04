set_option autoImplicit false

/-!
# Comma-separated rows

The parameters of a rule stand in one row of comma-separated fields.  A field that starts with a
double quote runs to the next lone double quote, and inside it a doubled quote stands for one.
U+0000 outside quotes ends the row, since line breaks are ordinary text here.

`read` takes a row apart and never fails; `write` puts fields together, each between quotes.
-/

namespace FieldGuide.Row

/-- The character that ends a row. -/
def stop : Char := Char.ofNat 0

/-- The mark that may open a text and belongs to none of its fields. -/
def byteOrderMark : Char := Char.ofNat 0xfeff

/-- Where in a field the reader stands. -/
inductive Place where
  /-- before the first character of a field -/
  | opening
  /-- in a field, outside quotes: a double quote is an ordinary character -/
  | bare
  /-- between quotes -/
  | quoted
  /-- behind a double quote that closes the field or is the first of a doubled one -/
  | closing
  deriving DecidableEq, Repr, Inhabited

/-- Puts a character in front of the first of some fields. -/
def push (c : Char) : List (List Char) → List (List Char)
  | [] => [[c]]
  | field :: fields => (c :: field) :: fields

/-- The fields of the rest of a row, the first of them being the rest of the field that the reader
stands in.  An open quotation ends with the row. -/
def fieldsFrom : Place → List Char → List (List Char)
  | _, [] => [[]]
  | .quoted, c :: cs =>
    if c = '"' then fieldsFrom .closing cs else push c (fieldsFrom .quoted cs)
  | .opening, c :: cs =>
    if c = '"' then fieldsFrom .quoted cs
    else if c = ',' then [] :: fieldsFrom .opening cs
    else if c = stop then [[]]
    else push c (fieldsFrom .bare cs)
  | .closing, c :: cs =>
    if c = '"' then push c (fieldsFrom .quoted cs)
    else if c = ',' then [] :: fieldsFrom .opening cs
    else if c = stop then [[]]
    else push c (fieldsFrom .bare cs)
  | .bare, c :: cs =>
    if c = ',' then [] :: fieldsFrom .opening cs
    else if c = stop then [[]]
    else push c (fieldsFrom .bare cs)

/-- A text without the byte order mark at its front. -/
def dropMark : List Char → List Char
  | [] => []
  | c :: cs => if c = byteOrderMark then cs else c :: cs

/-- The text of the first row that is not empty. -/
def firstRow (text : List Char) : List Char := (dropMark text).dropWhile (· = stop)

/-- The fields of a row of text; an empty row has none. -/
def read (text : List Char) : List (List Char) :=
  match firstRow text with
  | [] => []
  | row => fieldsFrom .opening row

/-- A field between double quotes, each of its own quotes doubled. -/
def quote (field : List Char) : List Char :=
  '"' :: field.flatMap (fun c => if c = '"' then ['"', '"'] else [c]) ++ ['"']

/-- A row with every field quoted. -/
def write (fields : List (List Char)) : List Char :=
  [','].intercalate (fields.map quote)

theorem fieldsFrom_ne_nil (place : Place) (cs : List Char) : fieldsFrom place cs ≠ [] := by
  have push_ne (c : Char) (fields : List (List Char)) : push c fields ≠ [] := by
    cases fields <;> simp [push]
  induction cs generalizing place with
  | nil => cases place <;> simp [fieldsFrom]
  | cons c cs ih => cases place <;> simp only [fieldsFrom] <;> (repeat' split) <;> simp_all

end FieldGuide.Row
