import FieldGuide.Proofs.QuotedRows
set_option autoImplicit false

/-!
# No text is lost

Reading a row moves no character and drops none but double quotes, however badly these are set: the
fields with commas between them are the text of the row, quotes left out of account on both sides.
Where there are no quotes at all, the fields are what stands between the commas.
-/

namespace FieldGuide

namespace Row

/-- A text without its double quotes. -/
def unquoted (text : List Char) : List Char := text.filter (· ≠ '"')

/-- Fields with commas between them. -/
def joined (fields : List (List Char)) : List Char := [','].intercalate fields

theorem unquoted_quote (cs : List Char) : unquoted ('"' :: cs) = unquoted cs := by
  simp [unquoted]

theorem unquoted_of_ne {c : Char} (hc : c ≠ '"') (cs : List Char) :
    unquoted (c :: cs) = c :: unquoted cs := by
  simp [unquoted, hc]

theorem unquoted_cons_congr {xs ys : List Char} (h : unquoted xs = unquoted ys) (c : Char) :
    unquoted (c :: xs) = unquoted (c :: ys) := by
  by_cases hc : c = '"'
  · rw [hc, unquoted_quote, unquoted_quote, h]
  · rw [unquoted_of_ne hc, unquoted_of_ne hc, h]

theorem joined_nil_cons {fields : List (List Char)} (hne : fields ≠ []) :
    joined ([] :: fields) = ',' :: joined fields := by
  cases fields with
  | nil => exact absurd rfl hne
  | cons field fields => simp [joined, List.intercalate_cons_cons]

theorem joined_push (c : Char) (fields : List (List Char)) :
    joined (push c fields) = c :: joined fields := by
  rcases fields with _ | ⟨field, _ | ⟨next, fields⟩⟩
  · simp [joined, push]
  · simp [joined, push]
  · simp [joined, push, List.intercalate_cons_cons]

/-! ## Rows with quotes -/

variable {cs : List Char}

/-- The fields of the rest of a row hold all its text, wherever the reader stands: each character is
a comma between two fields, a double quote that is passed over, or part of the field at hand. -/
theorem unquoted_joined_fieldsFrom (place : Place) (hstop : stop ∉ cs) :
    unquoted (joined (fieldsFrom place cs)) = unquoted cs := by
  induction cs generalizing place with
  | nil => cases place <;> simp [fieldsFrom, joined]
  | cons c cs ih =>
    have hc : c ≠ stop := fun heq => hstop (heq ▸ List.mem_cons_self)
    have hrest : stop ∉ cs := fun hmem => hstop (List.mem_cons_of_mem c hmem)
    have hcomma : unquoted (joined ([] :: fieldsFrom .opening cs)) = unquoted (',' :: cs) := by
      rw [joined_nil_cons (fieldsFrom_ne_nil _ _)]
      exact unquoted_cons_congr (ih _ hrest) _
    have hpush (place : Place) :
        unquoted (joined (push c (fieldsFrom place cs))) = unquoted (c :: cs) := by
      rw [joined_push]
      exact unquoted_cons_congr (ih place hrest) c
    have hskip (place : Place) (hquote : c = '"') :
        unquoted (joined (fieldsFrom place cs)) = unquoted (c :: cs) := by
      rw [hquote, unquoted_quote, ih place hrest]
    cases place with
    | quoted =>
      rw [fieldsFrom]
      split
      · exact hskip _ ‹_›
      · exact hpush _
    | opening =>
      rw [fieldsFrom, if_neg hc]
      split
      · exact hskip _ ‹_›
      · split
        · subst c
          exact hcomma
        · exact hpush _
    | closing =>
      rw [fieldsFrom, if_neg hc]
      split
      · exact hpush _
      · split
        · subst c
          exact hcomma
        · exact hpush _
    | bare =>
      rw [fieldsFrom, if_neg hc]
      split
      · subst c
        exact hcomma
      · exact hpush _

/-! ## Rows without quotes -/

theorem push_eq_modifyHead (c : Char) {fields : List (List Char)} (hne : fields ≠ []) :
    push c fields = fields.modifyHead (c :: ·) := by
  cases fields with
  | nil => exact absurd rfl hne
  | cons field fields => rfl

/-- Outside quotes the reader splits at commas, in the middle of a field as at its start. -/
theorem fieldsFrom_of_unquoted {place : Place} (hplace : place = .opening ∨ place = .bare)
    (hstop : stop ∉ cs) (hquote : '"' ∉ cs) : fieldsFrom place cs = cs.splitOn ',' := by
  induction cs generalizing place with
  | nil => rcases hplace with rfl | rfl <;> rfl
  | cons c cs ih =>
    have hc : c ≠ stop := fun heq => hstop (heq ▸ List.mem_cons_self)
    have hcq : c ≠ '"' := fun heq => hquote (heq ▸ List.mem_cons_self)
    have hrest {place : Place} (hplace : place = .opening ∨ place = .bare) :
        fieldsFrom place cs = cs.splitOn ',' :=
      ih hplace (fun hmem => hstop (List.mem_cons_of_mem c hmem))
        fun hmem => hquote (List.mem_cons_of_mem c hmem)
    have hstep : fieldsFrom place (c :: cs) =
        if c = ',' then [] :: fieldsFrom .opening cs else push c (fieldsFrom .bare cs) := by
      rcases hplace with rfl | rfl
      · rw [fieldsFrom, if_neg hcq, if_neg hc]
      · rw [fieldsFrom, if_neg hc]
    rw [hstep, hrest (.inl rfl), hrest (.inr rfl), List.splitOn_cons_eq_if_modifyHead,
      push_eq_modifyHead c (List.splitOn_ne_nil _ _)]
    simp

/-- A row that neither begins with what is skipped nor is empty is read from its first character. -/
theorem read_of_ne_nil (hstop : stop ∉ cs) (hmark : cs.head? ≠ some byteOrderMark)
    (hne : cs ≠ []) : read cs = fieldsFrom .opening cs := by
  obtain ⟨c, rest, rfl⟩ := List.exists_cons_of_ne_nil hne
  have hc : c ≠ stop := fun heq => hstop (heq ▸ List.mem_cons_self)
  have hrow : firstRow (c :: rest) = c :: rest := by
    have hcm : c ≠ byteOrderMark := fun heq => hmark (congrArg some heq)
    simp [firstRow, dropMark, hcm, hc]
  rw [read, hrow]

end Row

/-- Taking a rule apart loses no text behind its colon: the parameters with commas between them are
that text, double quotes apart.  Without any double quote they are what stands between the commas,
and there are none if nothing stands behind the colon. -/
theorem Rule.ofText_keeps_text {raw : String} {before after : List Char}
    (hraw : raw.toList = before ++ ':' :: after) (hbefore : ':' ∉ before)
    (hname : (ofText raw).name ≠ pattern) (hstop : Row.stop ∉ after)
    (hmark : after.head? ≠ some Row.byteOrderMark) :
    (",".intercalate (ofText raw).parameters).toList.filter (· ≠ '"') =
        after.filter (· ≠ '"') ∧
      ('"' ∉ after → (ofText raw).parameters =
        if after = [] then [] else (after.splitOn ',').map String.ofList) := by
  have hrule : ofText raw = ⟨nameOfText before, parametersOfText (nameOfText before) after⟩ := by
    rw [ofText, hraw, cutAtColon?_append hbefore]
  have hparameters : (ofText raw).parameters = (Row.read after).map String.ofList := by
    rw [hrule] at hname ⊢
    exact if_neg hname
  have htexts : ((ofText raw).parameters).map String.toList = Row.read after := by
    rw [hparameters, List.map_map]
    exact (List.map_congr_left fun field _ => String.toList_ofList).trans (List.map_id _)
  rw [String.toList_intercalate, htexts, hparameters]
  by_cases hempty : after = []
  · subst hempty
    exact ⟨rfl, fun _ => rfl⟩
  · rw [Row.read_of_ne_nil hstop hmark hempty, if_neg hempty]
    refine ⟨Row.unquoted_joined_fieldsFrom .opening hstop, ?_⟩
    intro hquote
    rw [Row.fieldsFrom_of_unquoted (.inl rfl) hstop hquote]

/-- A quotation with a comma in it, text behind its end, a quote in the middle of a field, and an
open quotation that ends with a doubled quote. -/
theorem Rule.ofText_keeps_text_hard :
    (",".intercalate (ofText " IN :\"a,b\"c:,d\"e,,\"f,\"\"").parameters).toList.filter (· ≠ '"') =
        "a,bc:,de,,f,".toList ∧
      (ofText "in:a\n, b,").parameters = ["a\n", " b", ""] := by
  obtain ⟨hquoted, -⟩ := @ofText_keeps_text " IN :\"a,b\"c:,d\"e,,\"f,\"\"" " IN ".toList
    "\"a,b\"c:,d\"e,,\"f,\"\"".toList (by decide) (by decide) (by decide) (by decide) (by decide)
  obtain ⟨-, hplain⟩ := @ofText_keeps_text "in:a\n, b," "in".toList "a\n, b,".toList
    (by decide) (by decide) (by decide) (by decide) (by decide)
  rw [hquoted, hplain (by decide)]
  decide

end FieldGuide
