import Mathlib.Data.Finset.Card
import FieldGuide.Proofs.Supplying
set_option autoImplicit false

/-!
# Parameters over whole runs

Parameters are collected from a list of pairs, and pairs are inserted one by one after that.  In
every state that is reached so, the names stand in the order in which they were first supplied, and
each has the entry that was supplied for it last.
-/

namespace FieldGuide.Parameters

/-- A state of parameters, with all pairs that have been supplied for it in order: a list that it
was collected from, and the pairs that were inserted afterwards. -/
inductive Reached : List (String × Entry) → Parameters → Prop where
  | collected (pairs : List (String × Entry)) : Reached pairs (ofList pairs)
  | inserted {supplied : List (String × Entry)} {p : Parameters} (h : Reached supplied p)
      (name : String) (e : Entry) : Reached (supplied ++ [(name, e)]) (p.insert name e)

/-- The parameters are what has been supplied. -/
structure Holds (p : Parameters) (supplied : List (String × Entry)) : Prop where
  nodup : p.names.Nodup
  mem_names : ∀ name, name ∈ p.names ↔ name ∈ supplied.map (·.1)
  /-- a name stands before another just if it was first supplied before it -/
  ordered : p.names.Pairwise fun a b =>
    (supplied.map (·.1)).idxOf a < (supplied.map (·.1)).idxOf b
  size : p.size = (supplied.map (·.1)).toFinset.card
  isEmpty : p.isEmpty = true ↔ p.size = 0
  /-- the entry of a name is the one behind which none was supplied for the name -/
  get?_eq_some : ∀ name e, p.get? name = some e ↔
    ∃ before after, supplied = before ++ (name, e) :: after ∧ ∀ pair ∈ after, pair.1 ≠ name
  get?_eq_none : ∀ name, p.get? name = none ↔ ∀ pair ∈ supplied, pair.1 ≠ name
  toList : p.toList.map (fun pair => (pair.1, some pair.2)) =
    p.names.map fun name => (name, p.get? name)

/-! ## One more pair -/

section

variable {supplied : List (String × Entry)} {p : Parameters}

theorem mem_names_ofList (pairs : List (String × Entry)) (name : String) :
    name ∈ (ofList pairs).names ↔ name ∈ pairs.map (·.1) := by
  rw [names_ofList, List.mem_eraseDups]

/-- A pair behind the others does not change the order of the names: a known name keeps its place,
and a new one comes last. -/
theorem pairwise_names_insert (hmem : ∀ name, name ∈ p.names ↔ name ∈ supplied.map (·.1))
    (hordered : p.names.Pairwise fun a b =>
      (supplied.map (·.1)).idxOf a < (supplied.map (·.1)).idxOf b)
    (name : String) (e : Entry) :
    (p.insert name e).names.Pairwise fun a b =>
      ((supplied ++ [(name, e)]).map (·.1)).idxOf a <
        ((supplied ++ [(name, e)]).map (·.1)).idxOf b := by
  have hold : p.names.Pairwise fun a b =>
      ((supplied ++ [(name, e)]).map (·.1)).idxOf a <
        ((supplied ++ [(name, e)]).map (·.1)).idxOf b := by
    refine hordered.imp_of_mem ?_
    intro a b ha hb hlt
    rw [List.map_append, List.idxOf_append_of_mem ((hmem a).mp ha),
      List.idxOf_append_of_mem ((hmem b).mp hb)]
    exact hlt
  rw [names_insert]
  split
  · exact hold
  · rename_i hnew
    refine List.pairwise_append.mpr ⟨hold, List.pairwise_singleton _ _, ?_⟩
    intro a ha b hb
    obtain rfl := List.mem_singleton.mp hb
    have hfirst := List.idxOf_lt_length_of_mem ((hmem a).mp ha)
    rw [List.map_append, List.idxOf_append_of_mem ((hmem a).mp ha),
      List.idxOf_append_of_notMem (mt (hmem b).mpr hnew)]
    omega

theorem pairwise_names_ofList (pairs : List (String × Entry)) :
    (ofList pairs).names.Pairwise fun a b =>
      (pairs.map (·.1)).idxOf a < (pairs.map (·.1)).idxOf b := by
  induction pairs using List.reverseRecOn with
  | nil => exact .nil
  | append_singleton pairs pair ih =>
    rw [ofList_concat]
    exact pairwise_names_insert (mem_names_ofList pairs) ih pair.1 pair.2

/-- It makes no difference which pairs were collected and which inserted. -/
theorem Reached.eq_ofList (h : Reached supplied p) : p = ofList supplied := by
  induction h with
  | collected pairs => rfl
  | inserted _ name e ih => rw [ih, ofList_concat]

end

/-! ## Iteration -/

/-- A pair of the parameters is what its name is found under. -/
theorem get?_of_mem_toList {p : Parameters} {pair : String × Entry} (h : pair ∈ p.toList) :
    p.get? pair.1 = some pair.2 := by
  obtain ⟨front, back, hsplit⟩ := List.append_of_mem h
  refine List.lookup_eq_some_iff.mpr ⟨front, back, hsplit, ?_⟩
  intro other hother
  have hnodup : ((front ++ pair :: back).map (·.1)).Nodup := hsplit ▸ p.nodup
  rw [List.map_append, List.map_cons, List.nodup_append] at hnodup
  exact bne_iff_ne.mpr fun heq =>
    hnodup.2.2 other.1 (List.mem_map_of_mem hother) pair.1 List.mem_cons_self heq.symm

theorem map_toList_eq (p : Parameters) :
    p.toList.map (fun pair => (pair.1, some pair.2)) =
      p.names.map fun name => (name, p.get? name) := by
  rw [names, List.map_map]
  refine List.map_congr_left ?_
  intro pair hpair
  rw [Function.comp_apply, get?_of_mem_toList hpair]

/-- Putting a pair under a name that is there replaces the entry of the name. -/
theorem put_of_mem (name : String) (e : Entry) {pairs : List (String × Entry)}
    (hnodup : (pairs.map (·.1)).Nodup) (hmem : name ∈ pairs.map (·.1)) :
    put name e pairs = pairs.map fun pair => if pair.1 = name then (name, e) else pair := by
  induction pairs with
  | nil => cases hmem
  | cons old rest ih =>
    rw [List.map_cons, List.nodup_cons] at hnodup
    rw [put, List.map_cons]
    by_cases hold : old.1 = name
    · have hrest : rest.map (fun pair => if pair.1 = name then (name, e) else pair) = rest := by
        refine (List.map_congr_left ?_).trans (List.map_id rest)
        intro pair hpair
        have hne : pair.1 ≠ name := by
          rintro rfl
          exact hnodup.1 (hold ▸ List.mem_map_of_mem hpair)
        rw [if_neg hne, id]
      rw [if_pos hold, if_pos hold, hrest]
    · have hlater : name ∈ rest.map (·.1) := by
        rw [List.map_cons, List.mem_cons] at hmem
        exact hmem.resolve_left fun heq => hold heq.symm
      rw [if_neg hold, if_neg hold, ih hnodup.2 hlater]

/-! ## Whole runs -/

theorem size_eq_card {p : Parameters} {supplied : List (String × Entry)}
    (hmem : ∀ name, name ∈ p.names ↔ name ∈ supplied.map (·.1)) :
    p.size = (supplied.map (·.1)).toFinset.card := by
  have hsame : (supplied.map (·.1)).toFinset = p.names.toFinset := by
    ext name
    rw [List.mem_toFinset, List.mem_toFinset, hmem]
  have hnodup : p.names.Nodup := p.nodup
  rw [hsame, List.toFinset_card_of_nodup hnodup]
  exact (List.length_map _).symm

theorem holds_ofList (pairs : List (String × Entry)) : (ofList pairs).Holds pairs where
  nodup := (ofList pairs).nodup
  mem_names := mem_names_ofList pairs
  ordered := pairwise_names_ofList pairs
  size := size_eq_card (mem_names_ofList pairs)
  isEmpty := List.isEmpty_iff.trans List.length_eq_zero_iff.symm
  get?_eq_some name e := by rw [get?_ofList, lookup_reverse_eq_some]
  get?_eq_none name := by rw [get?_ofList, lookup_reverse_eq_none]
  toList := map_toList_eq _

/-- In every state that can be reached, by collecting pairs and by inserting more of them, the
parameters are what has been supplied.  Inserting for a name that is there replaces its entry in its
place, and collecting comes to the same as inserting one by one. -/
theorem reached_holds {supplied : List (String × Entry)} {p : Parameters}
    (h : Reached supplied p) :
    p.Holds supplied ∧
      (∀ name e, name ∈ p.names → (p.insert name e).toList =
        p.toList.map fun pair => if pair.1 = name then (name, e) else pair) ∧
      p = supplied.foldl (fun p pair => p.insert pair.1 pair.2) empty := by
  obtain rfl := h.eq_ofList
  refine ⟨holds_ofList supplied, ?_, rfl⟩
  intro name e hmem
  exact put_of_mem name e (ofList supplied).nodup hmem

/-- Two pairs of one name are collected, and the name is supplied again behind a new one. -/
theorem reached_holds_repeated :
    ∃ p, Reached [("b", {}), ("a", {}), ("b", { required := true }), ("c", {}),
        ("a", { value := .flag true })] p ∧
      p.names = ["b", "a", "c"] ∧ p.size = 3 ∧
        p.get? "b" = some { required := true } ∧ p.get? "d" = none := by
  have h : Reached [("b", {}), ("a", {}), ("b", { required := true }), ("c", {}),
      ("a", { value := .flag true })] _ :=
    .inserted (.inserted (.collected [("b", {}), ("a", {}), ("b", { required := true })]) "c" {})
      "a" { value := .flag true }
  obtain ⟨hholds, -, -⟩ := reached_holds h
  refine ⟨_, h, rfl, ?_, ?_, ?_⟩
  · rw [hholds.size]
    decide
  · exact (hholds.get?_eq_some _ _).mpr ⟨[("b", {}), ("a", {})], _, rfl, by decide⟩
  · exact (hholds.get?_eq_none _).mpr (by decide)

end FieldGuide.Parameters
