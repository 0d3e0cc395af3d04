import FieldGuide.Rule
set_option autoImplicit false

/-!
# Quoted parameters are read back

Between quotes every character of a parameter stands for itself, once its double quotes are doubled:
commas, pipes, colons, line breaks, U+0000 and the byte order mark as well.  So a rule whose
parameters are written as a quoted row has exactly those parameters again.
-/

namespace FieldGuide

namespace Row

/-- A text with each of its double quotes doubled. -/
def doubled (field : List Char) : List Char :=
  field.flatMap fun c => if c = '"' then ['"', '"'] else [c]

theorem quote_eq (field : List Char) : quote field = '"' :: (doubled field ++ ['"']) := rfl

theorem doubled_quote (cs : List Char) : doubled ('"' :: cs) = '"' :: '"' :: doubled cs := rfl

theorem doubled_of_ne {c : Char} (hc : c ≠ '"') (cs : List Char) :
    doubled (c :: cs) = c :: doubled cs := by
  simp [doubled, hc]

/-! ## One field -/

/-- Inside a quotation the reader takes a doubled text for the text itself, up to the quote that
closes it. -/
theorem fieldsFrom_doubled (field rest : List Char) :
    fieldsFrom .quoted (doubled field ++ '"' :: rest) =
      field.foldr push (fieldsFrom .closing rest) := by
  induction field with
  | nil => simp [doubled, fieldsFrom]
  | cons c cs ih =>
    rw [List.foldr_cons, ← ih]
    by_cases hc : c = '"'
    · subst hc
      rw [doubled_quote]
      simp [fieldsFrom]
    · rw [doubled_of_ne hc]
      simp [fieldsFrom, hc]

theorem foldr_push (field head : List Char) (fields : List (List Char)) :
    field.foldr push (head :: fields) = (field ++ head) :: fields := by
  induction field with
  | nil => rfl
  | cons c cs ih => rw [List.foldr_cons, ih, push, List.cons_append]

/-- A quoted field at the end of a row. -/
theorem fieldsFrom_quote (field : List Char) : fieldsFrom .opening (quote field) = [field] := by
  have hread : fieldsFrom .opening (quote field) = field.foldr push (fieldsFrom .closing []) := by
    rw [quote_eq, ← fieldsFrom_doubled]
    simp [fieldsFrom]
  rw [hread, fieldsFrom, foldr_push, List.append_nil]

/-- A quoted field that another one follows. -/
theorem fieldsFrom_quote_comma (field rest : List Char) :
    fieldsFrom .opening (quote field ++ ',' :: rest) = field :: fieldsFrom .opening rest := by
  have hread : fieldsFrom .opening (quote field ++ ',' :: rest) =
      field.foldr push (fieldsFrom .closing (',' :: rest)) := by
    rw [quote_eq, ← fieldsFrom_doubled]
    simp [fieldsFrom]
  have hcomma : fieldsFrom .closing (',' :: rest) = [] :: fieldsFrom .opening rest := by
    simp [fieldsFrom]
  rw [hread, hcomma, foldr_push, List.append_nil]

/-! ## Whole rows -/

theorem write_singleton (field : List Char) : write [field] = quote field := by
  simp [write]

theorem write_cons_cons (field next : List Char) (fields : List (List Char)) :
    write (field :: next :: fields) = quote field ++ ',' :: write (next :: fields) := by
  simp [write, List.intercalate_cons_cons]

theorem fieldsFrom_write {fields : List (List Char)} (hne : fields ≠ []) :
    fieldsFrom .opening (write fields) = fields := by
  induction fields with
  | nil => exact absurd rfl hne
  | cons field fields ih =>
    cases fields with
    | nil => rw [write_singleton, fieldsFrom_quote]
    | cons next fields =>
      rw [write_cons_cons, fieldsFrom_quote_comma, ih (List.cons_ne_nil _ _)]

/-- A written row begins with a quote, so neither its first field's byte order mark nor its first
U+0000 is at the front. -/
theorem exists_write_eq_cons {fields : List (List Char)} (hne : fields ≠ []) :
    ∃ rest, write fields = '"' :: rest := by
  cases fields with
  | nil => exact absurd rfl hne
  | cons field fields =>
    cases fields with
    | nil => exact ⟨_, by rw [write_singleton, quote_eq]⟩
    | cons next fields => exact ⟨_, by rw [write_cons_cons, quote_eq, List.cons_append]⟩

theorem read_of_quote (rest : List Char) :
    read ('"' :: rest) = fieldsFrom .opening ('"' :: rest) := by
  have hrow : firstRow ('"' :: rest) = '"' :: rest := by
    have hmark : '"' ≠ byteOrderMark := by decide
    have hstop : '"' ≠ stop := by decide
    simp [firstRow, dropMark, hmark, hstop]
  rw [read, hrow]

/-- Reading a written row gives its fields. -/
theorem read_write {fields : List (List Char)} (hne : fields ≠ []) :
    read (write fields) = fields := by
  obtain ⟨rest, hrest⟩ := exists_write_eq_cons hne
  rw [hrest, read_of_quote, ← hrest, fieldsFrom_write hne]

end Row

namespace Rule

theorem dropWhile_ne_colon_of_notMem {text : List Char} (h : ':' ∉ text) :
    text.dropWhile (· ≠ ':') = [] := by
  rw [← List.append_nil text, List.dropWhile_append_of_pos, List.dropWhile_nil]
  intro c hc
  exact decide_eq_true fun heq => h (heq ▸ hc)

theorem dropWhile_ne_colon_append {before : List Char} (h : ':' ∉ before) (after : List Char) :
    (before ++ ':' :: after).dropWhile (· ≠ ':') = ':' :: after := by
  rw [List.dropWhile_append, dropWhile_ne_colon_of_notMem h]
  simp

theorem cutAtColon?_of_notMem {text : List Char} (h : ':' ∉ text) : cutAtColon? text = none := by
  rw [cutAtColon?, dropWhile_ne_colon_of_notMem h]

theorem cutAtColon?_append {before : List Char} (hcolon : ':' ∉ before) (after : List Char) :
    cutAtColon? (before ++ ':' :: after) = some (before, after) := by
  have hbefore : ∀ c ∈ before, decide (c ≠ ':') = true := by
    intro c hc
    exact decide_eq_true fun heq => hcolon (heq ▸ hc)
  have htake : (before ++ ':' :: after).takeWhile (· ≠ ':') = before := by
    rw [List.takeWhile_append_of_pos hbefore]
    simp
  rw [cutAtColon?, dropWhile_ne_colon_append hcolon]
  simp only [htake]

/-- A rule with quoted parameters, other than a regular expression, is read as its name and exactly
those parameters. -/
theorem ofText_write {name : String} {parameters : List String} (hcolon : ':' ∉ name.toList)
    (hpattern : nameOfText name.toList ≠ pattern) (hne : parameters ≠ []) :
    ofText (name ++ ":" ++ String.ofList (Row.write (parameters.map String.toList))) =
      ⟨nameOfText name.toList, parameters⟩ := by
  have hcut : cutAtColon?
      (name ++ ":" ++ String.ofList (Row.write (parameters.map String.toList))).toList =
        some (name.toList, Row.write (parameters.map String.toList)) := by
    simp only [String.toList_append, String.toList_ofList, List.append_assoc]
    exact cutAtColon?_append hcolon _
  have hread : (Row.read (Row.write (parameters.map String.toList))).map String.ofList =
      parameters := by
    rw [Row.read_write (by simpa using hne), List.map_map]
    simp
  rw [ofText, hcut]
  simp only [parametersOfText, if_neg hpattern, hread]

/-- Commas, quotes at both ends, colons, an empty parameter, U+0000 and a byte order mark. -/
theorem ofText_write_hard :
    ofText ("\tIN\u3000:" ++
        "\"\uFEFFa,b\",\"\",\"\"\"say:\"\"\",\"|\n\\\",\"\u0000\"") =
      ⟨"in", ["\uFEFFa,b", "", "\"say:\"", "|\n\\", "\u0000"]⟩ :=
  @ofText_write "\tIN\u3000" ["\uFEFFa,b", "", "\"say:\"", "|\n\\", "\u0000"] (by decide)
    (by decide) (by decide)

end Rule

end FieldGuide
