import Mathlib.Data.List.TakeWhile
import FieldGuide.Template
set_option autoImplicit false

/-!
# Placeholders and what lies between them

A template is cut in one way only at its placeholders: the first one begins as far left as any, it
is as long as it can be, and the text behind it is cut in the same way.  Filling the template leaves
the text between the placeholders alone and puts the arguments, as they are, in the place of the
first placeholders.
-/

namespace FieldGuide.Template

/-- A letter from A to Z in either case. -/
def IsLetter (c : Char) : Prop := ('A' ≤ c ∧ c ≤ 'Z') ∨ ('a' ≤ c ∧ c ≤ 'z')

/-- A colon, a letter, and any letters and underscores. -/
def IsPlaceholder (cs : List Char) : Prop :=
  ∃ first rest, cs = ':' :: first :: rest ∧ IsLetter first ∧ ∀ c ∈ rest, IsLetter c ∨ c = '_'

/-- The text has this placeholder behind so many characters. -/
def Occurs (text : List Char) (start : Nat) (placeholder : List Char) : Prop :=
  IsPlaceholder placeholder ∧ placeholder <+: text.drop start

/-- A placeholder and the text from it to the next one or to the end. -/
structure Piece where
  placeholder : List Char
  literal : List Char

/-- A text cut at its leftmost placeholders, each as long as it can be, none of which overlap: the
text before the first one, and the pieces from there on. -/
inductive Segments : (text front : List Char) → List Piece → Prop where
  | plain {text : List Char} (hnone : ∀ start q, ¬ Occurs text start q) : Segments text text []
  | found {text front p rest literal : List Char} {pieces : List Piece}
      (htext : text = front ++ p ++ rest) (hp : IsPlaceholder p)
      (hleftmost : ∀ start q, Occurs text start q → front.length ≤ start)
      (hlongest : ∀ q, Occurs text front.length q → q.length ≤ p.length)
      (hrest : Segments rest literal pieces) : Segments text front (⟨p, literal⟩ :: pieces)

/-- Pieces put together again. -/
def joined (pieces : List Piece) : List Char := pieces.flatMap fun p => p.placeholder ++ p.literal

/-! ## Where placeholders are -/

theorem isAlpha_iff {c : Char} : c.isAlpha = true ↔ IsLetter c := by
  have hupper : c.isUpper = true ↔ 'A' ≤ c ∧ c ≤ 'Z' := decide_eq_true_iff
  have hlower : c.isLower = true ↔ 'a' ≤ c ∧ c ≤ 'z' :=
    Bool.and_eq_true_iff.trans (and_congr decide_eq_true_iff decide_eq_true_iff)
  exact Bool.or_eq_true_iff.trans (or_congr hupper hlower)

theorem continuesName_iff {c : Char} : continuesName c = true ↔ IsLetter c ∨ c = '_' := by
  rw [continuesName, Bool.or_eq_true, isAlpha_iff, beq_iff_eq]

theorem not_isPlaceholder_nil : ¬ IsPlaceholder [] := by
  rintro ⟨_, _, ⟨⟩, -⟩

theorem not_occurs_nil (start : Nat) (q : List Char) : ¬ Occurs [] start q := by
  rintro ⟨hq, hstarts⟩
  rw [List.drop_nil, List.prefix_nil] at hstarts
  exact not_isPlaceholder_nil (hstarts ▸ hq)

/-- A text begins with a placeholder just if it begins with a colon and a letter. -/
theorem isAlpha_of_occurs {colon c : Char} {cs q : List Char} (h : Occurs (colon :: c :: cs) 0 q) :
    colon = ':' ∧ c.isAlpha = true := by
  obtain ⟨⟨first, rest, rfl, hfirst, -⟩, hstarts⟩ := h
  rw [List.drop_zero, List.cons_prefix_cons, List.cons_prefix_cons] at hstarts
  exact ⟨hstarts.1.symm, isAlpha_iff.mpr (hstarts.2.1 ▸ hfirst)⟩

theorem not_occurs_singleton (c : Char) (q : List Char) : ¬ Occurs [c] 0 q := by
  rintro ⟨⟨first, rest, rfl, -⟩, hstarts⟩
  rw [List.drop_zero, List.cons_prefix_cons] at hstarts
  exact absurd hstarts.2.length_le (by simp)

/-- The placeholder that begins with a colon and a letter. -/
def nameFrom (c : Char) (cs : List Char) : List Char := ':' :: c :: cs.takeWhile continuesName

theorem isPlaceholder_nameFrom {c : Char} (hc : c.isAlpha = true) (cs : List Char) :
    IsPlaceholder (nameFrom c cs) := by
  refine ⟨c, cs.takeWhile continuesName, rfl, isAlpha_iff.mp hc, fun d hd => ?_⟩
  exact continuesName_iff.mp (List.mem_takeWhile_imp hd)

theorem nameFrom_append (c : Char) (cs : List Char) :
    nameFrom c cs ++ cs.dropWhile continuesName = ':' :: c :: cs := by
  rw [nameFrom, List.cons_append, List.cons_append, List.takeWhile_append_dropWhile]

/-- No placeholder that begins there is longer. -/
theorem length_le_of_occurs {c : Char} {cs q : List Char} (h : Occurs (':' :: c :: cs) 0 q) :
    q.length ≤ (nameFrom c cs).length := by
  obtain ⟨⟨first, rest, rfl, -, hrest⟩, hstarts⟩ := h
  rw [List.drop_zero, List.cons_prefix_cons, List.cons_prefix_cons] at hstarts
  obtain ⟨behind, rfl⟩ := hstarts.2.2
  rw [nameFrom, List.takeWhile_append_of_pos fun d hd => continuesName_iff.mpr (hrest d hd)]
  simp only [List.length_cons, List.length_append]
  omega

/-! ## Cutting a text -/

/-- A character with which no placeholder begins belongs to the text before the first one. -/
theorem Segments.cons {c : Char} {text front : List Char} {pieces : List Piece}
    (hstart : ∀ q, ¬ Occurs (c :: text) 0 q) (h : Segments text front pieces) :
    Segments (c :: text) (c :: front) pieces := by
  cases h with
  | plain hnone =>
    refine .plain fun start q => ?_
    cases start with
    | zero => exact hstart q
    | succ start => exact hnone start q
  | @found _ _ p rest literal pieces htext hp hleftmost hlongest hrest =>
    refine .found (by rw [htext]; rfl) hp (fun start q hq => ?_) hlongest hrest
    cases start with
    | zero => exact absurd hq (hstart q)
    | succ start => exact Nat.succ_le_succ (hleftmost start q hq)

/-- A text that begins with a placeholder has nothing before it. -/
theorem Segments.name {c : Char} {cs literal : List Char} {pieces : List Piece}
    (hc : c.isAlpha = true) (h : Segments (cs.dropWhile continuesName) literal pieces) :
    Segments (':' :: c :: cs) [] (⟨nameFrom c cs, literal⟩ :: pieces) :=
  .found (nameFrom_append c cs).symm (isPlaceholder_nameFrom hc cs)
    (fun _ _ _ => Nat.zero_le _) (fun _ hq => length_le_of_occurs hq) h

/-- Nothing is lost. -/
theorem Segments.eq_append {text front : List Char} {pieces : List Piece}
    (h : Segments text front pieces) : text = front ++ joined pieces := by
  induction h with
  | plain => exact (List.append_nil _).symm
  | found htext _ _ _ _ ih =>
    rw [htext, ih, joined, joined, List.flatMap_cons]
    simp only [List.append_assoc]

/-- A text is cut in one way only: the leftmost place and the greatest length fix the first
placeholder, and with it the text behind it. -/
theorem Segments.unique {text front front' : List Char} {pieces pieces' : List Piece}
    (h : Segments text front pieces) (h' : Segments text front' pieces') :
    front' = front ∧ pieces' = pieces := by
  induction h generalizing front' pieces' with
  | plain hnone =>
    cases h' with
    | plain => exact ⟨rfl, rfl⟩
    | @found _ _ p rest _ _ htext hp =>
      refine absurd ⟨hp, ?_⟩ (hnone front'.length p)
      rw [htext, List.append_assoc, List.drop_left]
      exact List.prefix_append p rest
  | @found text front p rest literal pieces htext hp hleftmost hlongest _ ih =>
    have hoccurs : Occurs text front.length p := by
      refine ⟨hp, ?_⟩
      rw [htext, List.append_assoc, List.drop_left]
      exact List.prefix_append p rest
    cases h' with
    | plain hnone => exact absurd hoccurs (hnone _ _)
    | @found _ _ p' rest' _ _ htext' hp' hleftmost' hlongest' hrest' =>
      have hoccurs' : Occurs text front'.length p' := by
        refine ⟨hp', ?_⟩
        rw [htext', List.append_assoc, List.drop_left]
        exact List.prefix_append p' rest'
      have hstart : front'.length = front.length :=
        Nat.le_antisymm (hleftmost' _ _ hoccurs) (hleftmost _ _ hoccurs')
      have hlength : p'.length = p.length :=
        Nat.le_antisymm (hlongest _ (hstart ▸ hoccurs')) (hlongest' _ (hstart ▸ hoccurs))
      rw [htext, List.append_assoc, List.append_assoc] at htext'
      obtain ⟨rfl, hbehind⟩ := List.append_inj htext' hstart.symm
      obtain ⟨rfl, rfl⟩ := List.append_inj hbehind hlength.symm
      obtain ⟨rfl, rfl⟩ := ih hrest'
      exact ⟨rfl, rfl⟩

/-! ## Filling -/

/-- Pieces with arguments in the place of the first placeholders, as far as there are arguments. -/
def substituted (pieces : List Piece) (args : List (List Char)) : List Char :=
  ((args.zip pieces).flatMap fun x => x.1 ++ x.2.literal) ++ joined (pieces.drop args.length)

theorem substituted_nil (pieces : List Piece) : substituted pieces [] = joined pieces := rfl

theorem substituted_cons (p : Piece) (pieces : List Piece) (arg : List Char)
    (args : List (List Char)) :
    substituted (p :: pieces) (arg :: args) = arg ++ p.literal ++ substituted pieces args := by
  rw [substituted, List.zip_cons_cons, List.flatMap_cons, List.length_cons, List.drop_succ_cons,
    substituted]
  simp only [List.append_assoc]

/-- Arguments without a placeholder are left out. -/
theorem substituted_take (pieces : List Piece) (args : List (List Char)) :
    substituted pieces (args.take pieces.length) = substituted pieces args := by
  rcases Nat.le_total args.length pieces.length with hfew | hmany
  · rw [List.take_of_length_le hfew]
  · have hzip := @List.zip_eq_zip_take_min _ _ args pieces
    rw [Nat.min_eq_right hmany, List.take_length] at hzip
    rw [substituted, substituted, ← hzip, List.length_take, Nat.min_eq_left hmany,
      List.drop_length, List.drop_of_length_le hmany]

theorem fillChars_nil (text : List Char) : fillChars text [] = text := by
  rw [fillChars]

theorem fillChars_cons {c : Char} {text : List Char} (hstart : ∀ q, ¬ Occurs (c :: text) 0 q)
    (args : List (List Char)) : fillChars (c :: text) args = c :: fillChars text args := by
  cases args with
  | nil => rw [fillChars_nil, fillChars_nil]
  | cons arg args =>
    cases text with
    | nil => rw [fillChars, fillChars] <;> exact List.cons_ne_nil arg args
    | cons d text =>
      rw [fillChars, if_neg]
      rintro ⟨rfl, hd⟩
      refine hstart (nameFrom d text) ⟨isPlaceholder_nameFrom hd text, ?_⟩
      rw [List.drop_zero, ← nameFrom_append]
      exact List.prefix_append _ _

theorem fillChars_name {c : Char} (hc : c.isAlpha = true) (cs arg : List Char)
    (args : List (List Char)) :
    fillChars (':' :: c :: cs) (arg :: args) =
      arg ++ fillChars (cs.dropWhile continuesName) args := by
  rw [fillChars, if_pos ⟨rfl, hc⟩]

/-- Every text is cut somehow, and filling it fills the pieces: the text is gone through from the
left, by a placeholder at a time or by a character with which none begins. -/
theorem exists_segments (text : List Char) : ∃ front pieces, Segments text front pieces ∧
    ∀ args, fillChars text args = front ++ substituted pieces args := by
  induction hlength : text.length using Nat.strongRecOn generalizing text with
  | ind length ih =>
    subst hlength
    by_cases hname : ∃ c cs, text = ':' :: c :: cs ∧ c.isAlpha = true
    · obtain ⟨c, cs, rfl, hc⟩ := hname
      have hshorter : (cs.dropWhile continuesName).length < (':' :: c :: cs).length := by
        have := (List.dropWhile_sublist (l := cs) continuesName).length_le
        simp only [List.length_cons]
        omega
      obtain ⟨literal, pieces, hsegments, hfill⟩ := ih _ hshorter _ rfl
      have hcut := hsegments.name hc
      refine ⟨[], _, hcut, fun args => ?_⟩
      cases args with
      | nil =>
        rw [fillChars_nil, substituted_nil]
        exact hcut.eq_append
      | cons arg args =>
        rw [fillChars_name hc, hfill, substituted_cons, List.nil_append, List.append_assoc]
    · have hstart (q : List Char) : ¬ Occurs text 0 q := by
        intro hq
        match text, hq with
        | [], hq => exact not_occurs_nil 0 q hq
        | [c], hq => exact not_occurs_singleton c q hq
        | colon :: c :: cs, hq =>
          obtain ⟨rfl, hc⟩ := isAlpha_of_occurs hq
          exact hname ⟨c, cs, rfl, hc⟩
      cases text with
      | nil =>
        refine ⟨[], [], .plain not_occurs_nil, fun args => ?_⟩
        cases args with
        | nil => exact fillChars_nil []
        | cons arg args => rw [fillChars] <;> first | rfl | exact List.cons_ne_nil arg args
      | cons c text =>
        obtain ⟨front, pieces, hsegments, hfill⟩ := ih _ (Nat.lt_succ_self _) text rfl
        refine ⟨c :: front, pieces, hsegments.cons hstart, fun args => ?_⟩
        rw [fillChars_cons hstart, hfill, List.cons_append]

/-- Filling a template means to cut it at its placeholders and to put the arguments, none of which
is looked into, in the place of the first of them: so many as there are both of placeholders and
of arguments. -/
theorem fill_eq_segments (text : String) (args : List String) :
    ∃ front pieces, Segments text.toList front pieces ∧
      (∀ front' pieces', Segments text.toList front' pieces' →
        front' = front ∧ pieces' = pieces) ∧
      text.toList = front ++ joined pieces ∧
      fill text args =
        String.ofList (front ++ substituted pieces (args.map String.toList)) ∧
      fill text args = fill text (args.take pieces.length) ∧ fill text [] = text := by
  obtain ⟨front, pieces, hsegments, hfill⟩ := exists_segments text.toList
  have htext (args : List String) : fill text args =
      String.ofList (front ++ substituted pieces (args.map String.toList)) :=
    congrArg String.ofList (hfill _)
  refine ⟨front, pieces, hsegments, fun _ _ h => hsegments.unique h, hsegments.eq_append,
    htext args, ?_, ?_⟩
  · rw [htext, htext, List.map_take, substituted_take]
  · rw [htext, List.map_nil, substituted_nil, ← hsegments.eq_append, String.ofList_toList]

end FieldGuide.Template
