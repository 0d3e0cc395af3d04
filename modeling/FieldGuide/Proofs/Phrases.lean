import FieldGuide.Wording
set_option autoImplicit false

/-!
# Phrases of marked values

A list of values is told in one phrase, and a list of conditions too.  The link that is cut off
behind the last condition is the link alone, since a backtick or the end of an `is` stands before
it.  An enumeration of values without backticks can be taken apart at its backticks again: the
values and the texts between them come in turn.
-/

namespace FieldGuide.Wording

/-! ## Conditions -/

/-- A name with its value, as a condition. -/
def condition (name value : List Char) : List Char := mark name ++ " is ".toList ++ mark value

/-- Names and values in pairs, each pair as a condition.  A name that is left over has no value. -/
def phrases : List (List Char) → List (List Char)
  | [] => []
  | [name] => [mark name ++ " is".toList]
  | name :: value :: items => condition name value :: phrases items

/-- The rest of the link behind the last of a number of values, behind its phrase. -/
def lastLink : (count : Nat) → List Char
  | 0 => []
  | 1 => " ".toList
  | 2 => " or ".toList
  | count + 3 => lastLink (count + 1)

theorem isLinkEnd_of_mem_lastLink {count : Nat} {c : Char} (h : c ∈ lastLink count) :
    isLinkEnd c = true := by
  have hspace : ∀ c ∈ " ".toList, isLinkEnd c = true :=
    List.all_eq_true.mp (by decide)
  have hor : ∀ c ∈ " or ".toList, isLinkEnd c = true :=
    List.all_eq_true.mp (by decide)
  fun_induction lastLink count with
  | case1 => cases h
  | case2 => exact hspace c h
  | case3 => exact hor c h
  | case4 count ih => exact ih h

theorem phrases_cons_cons_cons (name value next : List Char) (items : List (List Char)) :
    " or ".toList.intercalate (phrases (name :: value :: next :: items)) =
      condition name value ++ " or ".toList ++
        " or ".toList.intercalate (phrases (next :: items)) := by
  cases items <;> simp only [phrases, List.intercalate_cons_cons]

/-- There is an `or` between the phrases, and the rest of a link behind them. -/
theorem links_eq (items : List (List Char)) :
    links false items = " or ".toList.intercalate (phrases items) ++ lastLink items.length := by
  fun_induction phrases items with
  | case1 => rfl
  | case2 name => simp [links, lastLink]
  | case3 name value items ih =>
    have hpair : links false (name :: value :: items) =
        condition name value ++ " or ".toList ++ links false items := by
      simp [links, condition]
    rw [hpair, ih]
    cases items with
    | nil => simp [phrases, lastLink]
    | cons next items =>
      rw [← phrases, phrases_cons_cons_cons, List.append_assoc _ _ (lastLink _)]
      rfl

/-- Phrases end with a backtick or with an `is`, and neither looks like a link. -/
theorem exists_phrases_eq_concat {items : List (List Char)} (hne : items ≠ []) :
    ∃ front c, " or ".toList.intercalate (phrases items) = front ++ [c] ∧
      isLinkEnd c = false := by
  fun_induction phrases items with
  | case1 => exact absurd rfl hne
  | case2 name => exact ⟨mark name ++ " i".toList, 's', by simp, by decide⟩
  | case3 name value items ih =>
    cases items with
    | nil =>
      refine ⟨mark name ++ " is ".toList ++ tick :: value, tick, ?_, by decide⟩
      simp [phrases, condition, mark]
    | cons next items =>
      obtain ⟨front, c, hfront, hc⟩ := ih (List.cons_ne_nil next items)
      refine ⟨condition name value ++ " or ".toList ++ front, c, ?_, hc⟩
      rw [← phrases, phrases_cons_cons_cons, hfront, List.append_assoc _ front]

/-- Cutting link characters off the end of a text goes no further than to its last other
character. -/
theorem dropWhile_isLinkEnd {front back : List Char} {c : Char} (hc : isLinkEnd c = false)
    (hback : ∀ d ∈ back, isLinkEnd d = true) :
    ((front ++ [c] ++ back).reverse.dropWhile isLinkEnd).reverse = front ++ [c] := by
  have hreverse : (front ++ [c] ++ back).reverse = back.reverse ++ c :: front.reverse := by simp
  rw [hreverse, List.dropWhile_append_of_pos fun d hd => hback d (List.mem_reverse.mp hd),
    List.dropWhile_cons_of_neg (by simp [hc])]
  simp

/-- Conditions are the phrases of the pairs with `or` between them, and what is cut off is the rest
of the last link alone. -/
theorem conditions_eq_phrases (items : List (List Char)) :
    conditions items = " or ".toList.intercalate (phrases items) ∧
      links false items = conditions items ++ lastLink items.length := by
  have hcut : conditions items = " or ".toList.intercalate (phrases items) := by
    by_cases hne : items = []
    · subst hne
      rfl
    · obtain ⟨front, c, hfront, hc⟩ := exists_phrases_eq_concat hne
      rw [conditions, links_eq, hfront]
      exact dropWhile_isLinkEnd hc fun d hd => isLinkEnd_of_mem_lastLink hd
  exact ⟨hcut, hcut ▸ links_eq items⟩

/-- Values that look like links are kept. -/
example : conditions ["for".toList, " or ".toList, "or".toList] =
    mark "for".toList ++ " is ".toList ++ mark " or ".toList ++ " or ".toList ++
      mark "or".toList ++ " is".toList := by
  decide

/-! ## Enumerations -/

/-- The text between a value and the next one, for the number of values behind it. -/
def gap (sep last : List Char) : (left : Nat) → List Char
  | 0 => []
  | 1 => last
  | _ + 2 => sep

theorem enumerate_cons (sep last item : List Char) (items : List (List Char)) :
    enumerate sep last (item :: items) =
      mark item ++ gap sep last items.length ++ enumerate sep last items := by
  match items with
  | [] => simp [enumerate, gap]
  | [next] => simp [enumerate, gap]
  | next :: third :: items =>
    -- the first of three values or more is none of the last two
    have hne : ∀ front : List (List Char), ∀ back, front ++ [back] ≠ [] := by simp
    exact List.intercalate_cons_of_ne_nil (hne _ _)

/-- The values in order, each with the text behind it. -/
def cells (sep last : List Char) : List (List Char) → List (List Char)
  | [] => []
  | item :: items => item :: gap sep last items.length :: cells sep last items

variable {sep last : List Char} {items : List (List Char)}

theorem length_cells : (cells sep last items).length = 2 * items.length := by
  induction items with
  | nil => rfl
  | cons item items ih => rw [cells, List.length_cons, List.length_cons, ih, List.length_cons]; rfl

theorem getElem?_cells_item (i : Nat) : (cells sep last items)[2 * i]? = items[i]? := by
  induction items generalizing i with
  | nil => rfl
  | cons item items ih =>
    cases i with
    | zero => rfl
    | succ i => exact ih i

theorem getElem?_cells_gap {i left : Nat} (h : i + left + 1 = items.length) :
    (cells sep last items)[2 * i + 1]? = some (gap sep last left) := by
  induction items generalizing i with
  | nil => cases h
  | cons item items ih =>
    cases i with
    | zero =>
      have hleft : left = items.length := by simpa using h
      rw [hleft]
      rfl
    | succ i => exact ih (by simp only [List.length_cons] at h; omega)

theorem notMem_gap (hsep : tick ∉ sep) (hlast : tick ∉ last) (left : Nat) :
    tick ∉ gap sep last left := by
  unfold gap
  split
  · exact List.not_mem_nil
  · exact hlast
  · exact hsep

/-- The texts before, between and behind the backticks of a text. -/
def pieces (text : List Char) : List (List Char) := text.splitOn tick

/-- An enumeration behind a text: the text, and then the values with what is between them. -/
theorem pieces_append_enumerate (hsep : tick ∉ sep) (hlast : tick ∉ last)
    (hitems : ∀ item ∈ items, tick ∉ item) {front : List Char} (hfront : tick ∉ front) :
    pieces (front ++ enumerate sep last items) = front :: cells sep last items := by
  unfold pieces
  induction items generalizing front with
  | nil =>
    have hnil : enumerate sep last [] = [] := rfl
    rw [hnil, List.append_nil, List.splitOn_eq_singleton hfront]
    rfl
  | cons item items ih =>
    obtain ⟨hitem, hrest⟩ := List.forall_mem_cons.mp hitems
    have htext : front ++ enumerate sep last (item :: items) = front ++ tick ::
        (item ++ tick :: (gap sep last items.length ++ enumerate sep last items)) := by
      rw [enumerate_cons]
      simp [mark]
    rw [htext, List.splitOn_append_cons_self_of_not_mem hfront,
      List.splitOn_append_cons_self_of_not_mem hitem,
      ih hrest (notMem_gap hsep hlast items.length)]
    rfl

theorem pieces_enumerate (hsep : tick ∉ sep) (hlast : tick ∉ last)
    (hitems : ∀ item ∈ items, tick ∉ item) :
    pieces (enumerate sep last items) = [] :: cells sep last items :=
  pieces_append_enumerate hsep hlast hitems List.not_mem_nil

theorem getLast?_cells : ([] :: cells sep last items).getLast? = some [] := by
  cases items with
  | nil => rfl
  | cons item items =>
    rw [List.getLast?_eq_getElem?, List.length_cons, length_cells]
    exact @getElem?_cells_gap sep last (item :: items) items.length 0 rfl

/-- The values of an enumeration stand between its backticks, with nothing before and behind them
and the separators between them, if there are no backticks in any of these.  So no two lists of
values are enumerated alike. -/
theorem enumerate_decodes (hsep : tick ∉ sep) (hlast : tick ∉ last)
    (hitems : ∀ item ∈ items, tick ∉ item) :
    (pieces (enumerate sep last items)).length = 2 * items.length + 1 ∧
      (∀ i, (pieces (enumerate sep last items))[2 * i + 1]? = items[i]?) ∧
      (pieces (enumerate sep last items)).head? = some [] ∧
      (pieces (enumerate sep last items)).getLast? = some [] ∧
      (∀ i, i + 2 < items.length →
        (pieces (enumerate sep last items))[2 * i + 2]? = some sep) ∧
      (∀ i, i + 2 = items.length →
        (pieces (enumerate sep last items))[2 * i + 2]? = some last) ∧
      ∀ others : List (List Char), (∀ item ∈ others, tick ∉ item) →
        enumerate sep last others = enumerate sep last items → others = items := by
  have hpieces := pieces_enumerate hsep hlast hitems
  rw [hpieces]
  refine ⟨congrArg (· + 1) length_cells, fun i => getElem?_cells_item i, rfl, getLast?_cells, ?_,
    ?_, ?_⟩
  · intro i hi
    obtain ⟨more, hmore⟩ := Nat.exists_eq_add_of_lt hi
    have hgap : (cells sep last items)[2 * i + 1]? = some (gap sep last (more + 2)) :=
      getElem?_cells_gap (by omega)
    exact hgap
  · intro i hi
    exact getElem?_cells_gap hi
  · intro others hothers heq
    have hcells : cells sep last others = cells sep last items := by
      rw [← heq, pieces_enumerate hsep hlast hothers] at hpieces
      exact List.tail_eq_of_cons_eq hpieces
    refine List.ext_getElem? fun i => ?_
    rw [← @getElem?_cells_item sep last, hcells, getElem?_cells_item]

/-- Nothing between the values but the last two, which are empty or spaces themselves. -/
theorem enumerate_decodes_empty :
    (tick ∉ [] ∧ tick ∉ " or ".toList ∧
        ∀ item ∈ [[], " or ".toList, []], tick ∉ item) ∧
      (pieces (enumerate [] " or ".toList [[], " or ".toList, []])).length = 7 ∧
      ∀ others : List (List Char), (∀ item ∈ others, tick ∉ item) →
        enumerate [] " or ".toList others = enumerate [] " or ".toList [[], " or ".toList, []] →
          others = [[], " or ".toList, []] := by
  have hitems : ∀ item ∈ [[], " or ".toList, []], tick ∉ item := by decide
  have hlast : tick ∉ " or ".toList := by decide
  obtain ⟨hlength, -, -, -, -, -, hinjective⟩ :=
    enumerate_decodes List.not_mem_nil hlast hitems
  exact ⟨⟨List.not_mem_nil, hlast, hitems⟩, hlength, hinjective⟩

end FieldGuide.Wording
