import Mathlib.Data.List.Induction
import FieldGuide.Parameters
set_option autoImplicit false

/-!
# Supplying pairs in order

Where pairs are supplied in order, the last one with a name counts.  Parameters that come of
supplying pairs have each name once, in the order in which the names come first, with the entry of
the last pair of that name.
-/

namespace FieldGuide

/-! ## The last pair with a name -/

section

variable {α : Type} {pairs : List (String × α)} {name : String}

theorem lookup_cons_ite (pair : String × α) :
    (pair :: pairs).lookup name = if name = pair.1 then some pair.2 else pairs.lookup name := by
  obtain ⟨key, a⟩ := pair
  rw [List.lookup_cons]
  by_cases hname : name = key
  · rw [beq_iff_eq.mpr hname, if_pos hname]
  · rw [beq_eq_false_iff_ne.mpr hname, if_neg hname]

/-- The last pair with a name is the first one of the reversed list. -/
theorem lookup_reverse_eq_some {a : α} :
    pairs.reverse.lookup name = some a ↔
      ∃ before after, pairs = before ++ (name, a) :: after ∧ ∀ pair ∈ after, pair.1 ≠ name := by
  rw [List.lookup_eq_some_iff]
  constructor
  · rintro ⟨front, back, hsplit, hfront⟩
    refine ⟨back.reverse, front.reverse, ?_, ?_⟩
    · rw [← List.reverse_reverse pairs, hsplit]
      simp
    · intro pair hpair
      have hne := hfront pair (List.mem_reverse.mp hpair)
      exact (bne_iff_ne.mp hne).symm
  · rintro ⟨before, after, rfl, hafter⟩
    refine ⟨after.reverse, before.reverse, by simp, ?_⟩
    intro pair hpair
    exact bne_iff_ne.mpr (hafter pair (List.mem_reverse.mp hpair)).symm

theorem lookup_reverse_eq_none :
    pairs.reverse.lookup name = none ↔ ∀ pair ∈ pairs, pair.1 ≠ name := by
  simp only [List.lookup_eq_none_iff, List.mem_reverse, bne_iff_ne]
  exact forall₂_congr fun pair _ => ne_comm

end

/-! ## Parameters -/

namespace Parameters

theorem names_insert (p : Parameters) (name : String) (e : Entry) :
    (p.insert name e).names = if name ∈ p.names then p.names else p.names ++ [name] :=
  map_fst_put name e p.entries

theorem lookup_put (name other : String) (e : Entry) (pairs : List (String × Entry)) :
    (put name e pairs).lookup other = if other = name then some e else pairs.lookup other := by
  induction pairs with
  | nil => rw [put, lookup_cons_ite]
  | cons old rest ih =>
    rw [put]
    by_cases hold : old.1 = name
    · rw [if_pos hold, lookup_cons_ite, lookup_cons_ite, hold]
      by_cases hother : other = name <;> simp [hother]
    · rw [if_neg hold, lookup_cons_ite, lookup_cons_ite, ih]
      by_cases hother : other = name
      · rw [hother, if_neg (Ne.symm hold)]
        simp
      · simp [hother]

theorem get?_insert (p : Parameters) (name other : String) (e : Entry) :
    (p.insert name e).get? other = if other = name then some e else p.get? other :=
  lookup_put name other e p.entries

theorem ofList_concat (pairs : List (String × Entry)) (pair : String × Entry) :
    ofList (pairs ++ [pair]) = (ofList pairs).insert pair.1 pair.2 := by
  rw [ofList, List.foldl_append]
  rfl

/-- The names are those of the pairs, each where it comes first. -/
theorem names_ofList (pairs : List (String × Entry)) :
    (ofList pairs).names = (pairs.map (·.1)).eraseDups := by
  induction pairs using List.reverseRecOn with
  | nil => rfl
  | append_singleton pairs pair ih =>
    rw [ofList_concat, names_insert, ih, List.map_append, List.eraseDups_append]
    simp only [List.mem_eraseDups, List.map_cons, List.map_nil, List.removeAll]
    by_cases hmem : pair.1 ∈ pairs.map (·.1)
    · rw [if_pos hmem, List.filter_cons_of_neg (by simpa using hmem), List.filter_nil]
      exact (List.append_nil _).symm
    · rw [if_neg hmem, List.filter_cons_of_pos (by simpa using hmem), List.filter_nil]
      rfl

/-- The entry of a name is that of the last pair with the name. -/
theorem get?_ofList (pairs : List (String × Entry)) (name : String) :
    (ofList pairs).get? name = pairs.reverse.lookup name := by
  induction pairs using List.reverseRecOn with
  | nil => rfl
  | append_singleton pairs pair ih =>
    have hreverse : (pairs ++ [pair]).reverse = pair :: pairs.reverse := by simp
    rw [ofList_concat, get?_insert, ih, hreverse, lookup_cons_ite]

end Parameters

end FieldGuide
