import FieldGuide.ExampleChoice
set_option autoImplicit false

/-!
# Every moment has a text

A moment has a text in every format of date letters, whatever the format is, and in the layout of
bounds; a drawn date has one in the pattern of examples.  Formats become patterns piece by piece, and
every piece is complete in itself: it neither ends inside an item nor needs what follows it.
-/

namespace FieldGuide.Calendar

open Pattern

/-- A text that consists of whole items of a pattern. -/
inductive Complete : List Char → Prop where
  | nil : Complete []
  | literal {c : Char} {cs : List Char} (hc : c ≠ '%') (hcs : Complete cs) : Complete (c :: cs)
  | letter {c : Char} {cs : List Char} (hflag : flag? c = none) (hfigures : figures? c = none)
      (hletter : (letter? c).isSome) (hcs : Complete cs) : Complete ('%' :: c :: cs)
  | padded {flag c : Char} {cs : List Char} (hflag : (flag? flag).isSome)
      (hnumber : (number? c).isSome) (hcs : Complete cs) : Complete ('%' :: flag :: c :: cs)
  | fraction {d : Char} {cs : List Char} (hflag : flag? d = none) (hfigures : (figures? d).isSome)
      (hcs : Complete cs) : Complete ('%' :: d :: 'f' :: cs)

theorem Complete.append {xs ys : List Char} (hx : Complete xs) (hy : Complete ys) :
    Complete (xs ++ ys) := by
  induction hx with
  | nil => exact hy
  | literal hc _ ih => exact .literal hc ih
  | letter hflag hfigures hletter _ ih => exact .letter hflag hfigures hletter ih
  | padded hflag hnumber _ ih => exact .padded hflag hnumber ih
  | fraction hflag hfigures _ ih => exact .fraction hflag hfigures ih

/-! ## Reading complete patterns -/

theorem read?_literal {c : Char} (hc : c ≠ '%') (cs : List Char) :
    read? (c :: cs) = (read? cs).map (.literal c :: ·) := by
  rw [read?.eq_def]
  split <;> simp_all

theorem read?_letter {c : Char} (hflag : flag? c = none) (hfigures : figures? c = none)
    {items : List Item} (hletter : letter? c = some items) (cs : List Char) :
    read? ('%' :: c :: cs) = (read? cs).map (items ++ ·) := by
  cases cs with
  | nil => simp [read?, hletter]
  | cons d ds =>
    rw [read?]
    simp [hflag, hfigures, hletter]

theorem read?_padded {flag c : Char} {pad usual : Pad} {quantity : Quantity}
    (hflag : flag? flag = some pad) (hnumber : number? c = some (quantity, usual))
    (cs : List Char) :
    read? ('%' :: flag :: c :: cs) = (read? cs).map (.number quantity pad :: ·) := by
  rw [read?]
  simp [hflag, hnumber]

theorem read?_fraction {d : Char} {figures : Nat} (hflag : flag? d = none)
    (hfigures : figures? d = some figures) (cs : List Char) :
    read? ('%' :: d :: 'f' :: cs) = (read? cs).map (.fraction figures :: ·) := by
  rw [read?]
  simp [hflag, hfigures]

/-- A complete pattern can be read. -/
theorem Complete.read?_isSome {cs : List Char} (h : Complete cs) : (read? cs).isSome := by
  induction h with
  | nil => rfl
  | literal hc _ ih =>
    rw [read?_literal hc]
    simpa using ih
  | @letter c cs hflag hfigures hletter _ ih =>
    obtain ⟨items, hitems⟩ := Option.isSome_iff_exists.mp hletter
    rw [read?_letter hflag hfigures hitems]
    simpa using ih
  | @padded flag c cs hflag hnumber _ ih =>
    obtain ⟨pad, hpad⟩ := Option.isSome_iff_exists.mp hflag
    obtain ⟨⟨quantity, _⟩, hquantity⟩ := Option.isSome_iff_exists.mp hnumber
    rw [read?_padded hpad hquantity]
    simpa using ih
  | @fraction d cs hflag hfigures _ ih =>
    obtain ⟨figures, hfig⟩ := Option.isSome_iff_exists.mp hfigures
    rw [read?_fraction hflag hfig]
    simpa using ih

/-! ## Formats become complete patterns -/

theorem complete_escape (text : List Char) : Complete (DateLetters.escape text) := by
  induction text with
  | nil => exact .nil
  | cons c cs ih =>
    rw [DateLetters.escape, List.flatMap_cons]
    refine Complete.append ?_ ih
    split
    · exact .letter rfl rfl rfl .nil
    · rename_i hc
      exact .literal hc .nil

/-- The pattern of a letter is complete, item by item. -/
theorem complete_pattern {c : Char} {pattern : String}
    (h : DateLetters.pattern? c = some pattern) : Complete pattern.toList := by
  unfold DateLetters.pattern? at h
  split at h <;> cases h <;> simp only [String.reduceToList]
  all_goals
    repeat first
      | exact .nil
      | refine .letter rfl rfl rfl ?_
      | refine .padded rfl rfl ?_
      | refine .fraction rfl rfl ?_
      | refine .literal (by decide) ?_

/-- Whatever the format is, its pattern is complete: the recursion takes a character, and the one
behind a backslash with it, and both become complete pieces. -/
theorem complete_toPattern (m : Moment) (format : List Char) :
    Complete (DateLetters.toPattern m format) := by
  induction format using DateLetters.toPattern.induct with
  | case1 => exact .nil
  | case2 c cs ih => exact (complete_escape [c]).append ih
  | case3 => exact .nil
  | case4 c cs _ _ ih =>
    rw [DateLetters.toPattern]
    · refine Complete.append ?_ ih
      split
      · rename_i pattern hpattern
        exact complete_pattern hpattern
      · exact complete_escape _
    all_goals assumption

/-! ## Rendering -/

/-- With a time of day every item has a text. -/
theorem Item.text?_isSome (d : Date) (c : Clock) (item : Item) :
    (item.text? d (some c)).isSome := by
  cases item with
  | number quantity pad => cases quantity <;> rfl
  | _ => rfl

theorem render?_isSome (d : Date) (c : Clock) (items : List Item) :
    (render? d (some c) items).isSome := by
  induction items with
  | nil => rfl
  | cons item items ih =>
    obtain ⟨text, htext⟩ := Option.isSome_iff_exists.mp (item.text?_isSome d c)
    obtain ⟨rest, hrest⟩ := Option.isSome_iff_exists.mp ih
    simp [render?, htext, hrest]

/-- A complete pattern has a text on every moment. -/
theorem Complete.onMoment?_isSome {pattern : List Char} (h : Complete pattern) (m : Moment) :
    (onMoment? pattern m).isSome := by
  obtain ⟨items, hitems⟩ := Option.isSome_iff_exists.mp h.read?_isSome
  simpa [onMoment?, hitems] using render?_isSome m.date m.clock items

theorem format?_isSome (format : List Char) (m : Moment) :
    (DateLetters.format? format m).isSome :=
  (complete_toPattern m format).onMoment?_isSome m

theorem boundText?_isSome (m : Moment) : (DateLetters.boundText? m).isSome := by
  have hread : (read? DateLetters.bound.toList).isSome := by decide
  obtain ⟨items, hitems⟩ := Option.isSome_iff_exists.mp hread
  simpa [DateLetters.boundText?, onMoment?, hitems] using render?_isSome m.date m.clock items

/-- The pattern of date examples asks for nothing but the date. -/
theorem onDate?_datePattern_isSome (d : Date) : (onDate? datePattern.toList d).isSome := rfl

end FieldGuide.Calendar
