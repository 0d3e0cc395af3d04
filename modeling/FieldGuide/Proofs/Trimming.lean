import FieldGuide.Text.Space
set_option autoImplicit false

/-!
# Spaces at the ends of a text

Cutting the spaces off the ends of a text leaves a text that neither begins nor ends with a space,
and such a text is left as it is.
-/

namespace FieldGuide.Text

variable {cs front : List Char}

theorem trimStart_append_of_spaces {before : List Char} (h : ∀ c ∈ before, isSpace c = true)
    (cs : List Char) : trimStart (before ++ cs) = trimStart cs :=
  List.dropWhile_append_of_pos h

theorem trimEnd_of_spaces {after : List Char} (h : ∀ c ∈ after, isSpace c = true) :
    trimEnd after = [] := by
  have hstart : trimStart after.reverse = [] := by
    rw [← List.append_nil after.reverse,
      trimStart_append_of_spaces fun c hc => h c (List.mem_reverse.mp hc), trimStart_nil]
  exact congrArg List.reverse hstart

/-- The spaces at the end of a text lie behind its last other character. -/
theorem trimEnd_append (hne : front ≠ []) (hlast : isSpace (front.getLast hne) = false)
    (rest : List Char) : trimEnd (front ++ rest) = front ++ trimEnd rest := by
  have hfront : front.reverse.dropWhile isSpace = front.reverse := by
    rw [← List.dropLast_concat_getLast hne, List.reverse_append]
    exact trimStart_of_not_isSpace hlast _
  rw [trimEnd, List.reverse_append, List.dropWhile_append]
  split
  · rename_i hspaces
    rw [hfront, List.reverse_reverse, trimEnd, List.isEmpty_iff.mp hspaces, List.reverse_nil,
      List.append_nil]
  · rw [List.reverse_append, List.reverse_reverse]
    rfl

/-- What stands between a first and a last character that are no spaces is kept. -/
theorem trim_append (hne : front ≠ []) (hfirst : isSpace (front.head hne) = false)
    (hlast : isSpace (front.getLast hne) = false) (rest : List Char) :
    trim (front ++ rest) = front ++ trimEnd rest := by
  have hstart : trimStart (front ++ rest) = front ++ rest := by
    obtain ⟨c, front, rfl⟩ := List.exists_cons_of_ne_nil hne
    exact trimStart_of_not_isSpace hfirst _
  rw [trim, hstart, trimEnd_append hne hlast]

/-- A text that neither begins nor ends with a space is what is left when the spaces around it are
cut off. -/
theorem trim_of_ends {before cs after : List Char}
    (hbefore : ∀ c ∈ before, isSpace c = true) (hafter : ∀ c ∈ after, isSpace c = true)
    (hne : cs ≠ []) (hfirst : isSpace (cs.head hne) = false)
    (hlast : isSpace (cs.getLast hne) = false) : trim (before ++ cs ++ after) = cs := by
  have hbegin : trim (before ++ cs ++ after) = trim (cs ++ after) := by
    rw [trim, List.append_assoc, trimStart_append_of_spaces hbefore, ← trim]
  rw [hbegin, trim_append hne hfirst hlast, trimEnd_of_spaces hafter, List.append_nil]

/-- A text without spaces is what is left when the spaces around it are cut off. -/
theorem trim_surrounded {before cs after : List Char}
    (hbefore : ∀ c ∈ before, isSpace c = true) (hafter : ∀ c ∈ after, isSpace c = true)
    (hcs : ∀ c ∈ cs, isSpace c = false) (hne : cs ≠ []) :
    trim (before ++ cs ++ after) = cs :=
  trim_of_ends hbefore hafter hne (hcs _ (List.head_mem hne)) (hcs _ (List.getLast_mem hne))

theorem trim_of_isBlank (h : isBlank cs = true) : trim cs = [] := by
  have hstart : trimStart cs = [] := by
    rw [← List.append_nil cs, trimStart_append_of_spaces (List.all_eq_true.mp h), trimStart_nil]
  rw [trim, hstart]
  rfl

theorem trimEnd_prefix_self (cs : List Char) : trimEnd cs <+: cs := by
  have hprefix := List.reverse_prefix.mpr (List.dropWhile_suffix (l := cs.reverse) isSpace)
  rwa [List.reverse_reverse] at hprefix

theorem trim_subset (cs : List Char) : trim cs ⊆ cs :=
  fun _ h => (List.dropWhile_sublist _).subset ((trimEnd_prefix_self _).subset h)

/-- The text neither begins nor ends with a space. -/
structure IsTrimmed (cs : List Char) : Prop where
  first : ∀ c ∈ cs.head?, isSpace c = false
  last : ∀ c ∈ cs.getLast?, isSpace c = false

theorem isTrimmed_trim (cs : List Char) : IsTrimmed (trim cs) := by
  have hnot (cs : List Char) : ∀ c ∈ (cs.dropWhile isSpace).head?, isSpace c = false := by
    intro c hc
    have hhead := List.head?_dropWhile_not isSpace cs
    rw [hc] at hhead
    exact hhead
  constructor
  case first =>
    intro c hc
    obtain ⟨rest, hrest⟩ := trimEnd_prefix_self (trimStart cs)
    refine hnot cs c ?_
    change c ∈ (trimStart cs).head?
    rw [← hrest, List.head?_append, ← trim, hc]
    rfl
  case last =>
    intro c hc
    rw [trim, trimEnd, List.getLast?_reverse] at hc
    exact hnot _ c hc

theorem trim_of_isTrimmed (h : IsTrimmed cs) : trim cs = cs := by
  by_cases hne : cs = []
  · rw [hne]
    rfl
  · have htrim := trim_append hne (h.first _ (List.head?_eq_some_head hne))
      (h.last _ (List.getLast?_eq_some_getLast hne)) []
    rwa [List.append_nil, trimEnd_of_spaces (by simp), List.append_nil] at htrim

theorem isSpace_of_isDigit {c : Char} (h : c.isDigit = true) : isSpace c = false := by
  have hrange := Char.isDigit_iff_toNat.mp h
  have hnine : '9'.toNat = 57 := rfl
  have hzero : '0'.toNat = 48 := rfl
  simp [isSpace, CodeRanges.contains, spaceRanges]
  omega

end FieldGuide.Text
