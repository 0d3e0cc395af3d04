import FieldGuide.Entry
set_option autoImplicit false

/-!
# Documented parameters

The entries of the fields of one endpoint, under their names.  A name keeps the place where it was
first supplied; supplying it again replaces its entry only.
-/

namespace FieldGuide

/-- Entries under names, in the order in which the names were first supplied. -/
structure Parameters where
  /-- the names with their entries -/
  entries : List (String × Entry) := []
  /-- every name occurs once -/
  nodup : (entries.map (·.1)).Nodup := by simp
  deriving DecidableEq, Repr

namespace Parameters

/-- No parameter at all. -/
def empty : Parameters := {}

instance : Inhabited Parameters := ⟨empty⟩

/-- The names in order. -/
def names (p : Parameters) : List String := p.entries.map (·.1)

/-- The number of names. -/
def size (p : Parameters) : Nat := p.entries.length

/-- There is no parameter. -/
def isEmpty (p : Parameters) : Bool := p.entries.isEmpty

/-- The entry of a name. -/
def get? (p : Parameters) (name : String) : Option Entry := p.entries.lookup name

/-- The pairs with `entry` under `name`, in its old place or at the end. -/
def put (name : String) (entry : Entry) : List (String × Entry) → List (String × Entry)
  | [] => [(name, entry)]
  | old :: rest => if old.1 = name then (name, entry) :: rest else old :: put name entry rest

/-- Putting a pair adds its name behind the others, unless it is there. -/
theorem map_fst_put (name : String) (entry : Entry) (pairs : List (String × Entry)) :
    (put name entry pairs).map (·.1) =
      if name ∈ pairs.map (·.1) then pairs.map (·.1) else pairs.map (·.1) ++ [name] := by
  induction pairs with
  | nil => simp [put]
  | cons old rest ih =>
    by_cases h : old.1 = name
    · simp [put, h]
    · have h' : ¬ name = old.1 := fun e => h e.symm
      simp only [put, h, if_false, List.map_cons, ih, List.mem_cons, h', false_or]
      split <;> simp

theorem nodup_put (name : String) (entry : Entry) {pairs : List (String × Entry)}
    (h : (pairs.map (·.1)).Nodup) : ((put name entry pairs).map (·.1)).Nodup := by
  rw [map_fst_put]
  split
  · exact h
  · next hn =>
    rw [List.nodup_append]
    refine ⟨h, by simp, ?_⟩
    intro a ha b hb
    rw [List.mem_singleton] at hb
    intro e
    exact hn (hb ▸ e ▸ ha)

/-- Supplies an entry for a name. -/
def insert (p : Parameters) (name : String) (entry : Entry) : Parameters :=
  ⟨put name entry p.entries, nodup_put name entry p.nodup⟩

/-- The parameters that come of supplying pairs in order. -/
def ofList (pairs : List (String × Entry)) : Parameters :=
  pairs.foldl (fun p pair => p.insert pair.1 pair.2) empty

/-- The pairs in order. -/
def toList (p : Parameters) : List (String × Entry) := p.entries

end Parameters

end FieldGuide
