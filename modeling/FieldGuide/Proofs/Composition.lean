import FieldGuide.Proofs.Contributions
import FieldGuide.Proofs.Explanation
import FieldGuide.Proofs.Interruptions
set_option autoImplicit false

/-!
# Rules behind rules

The field of some rules followed by others is put together from the fields of both: the
descriptions stand one behind the other, a mark in either is kept, and the outcomes of the first
rules come first.  The value is that of the first rules, unless one of the others chooses an
example.
-/

namespace FieldGuide

variable {templates : Templates} {setting : Setting} {field : String}

/-! ## The rules in front -/

/-- The rules leave the same entry and the same place in the stream whenever they start from the
same. -/
theorem Run.unique {rules : List String} {e e₁ e₂ : Entry} {s s₁ s₂ : Stream}
    {outcomes outcomes' : List Outcome} (h : Run templates setting field rules e s outcomes e₁ s₁)
    (h' : Run templates setting field rules e s outcomes' e₂ s₂) :
    outcomes = outcomes' ∧ e₁ = e₂ ∧ s₁ = s₂ := by
  obtain ⟨events, htrace⟩ := traceRules_of_run h
  obtain ⟨events', htrace'⟩ := traceRules_of_run h'
  rw [htrace] at htrace'
  cases htrace'
  exact ⟨rfl, rfl, rfl⟩

/-- Two entries with one value are completed with one value from the same place in the stream: the
word that both lack is the same word. -/
theorem value_eq_of_finalize {e d entry entry' : Entry} {s s' t' : Stream}
    (hvalue : e.value = d.value) (h : (finalize e).run s = .ok (entry, s'))
    (h' : (finalize d).run s = .ok (entry', t')) : entry.value = entry'.value := by
  rcases finalize_eq_ok.mp h with ⟨hempty, w, hword, rfl⟩ | ⟨hne, -, rfl⟩
  · rcases finalize_eq_ok.mp h' with ⟨-, w', hword', rfl⟩ | ⟨hne', -, -⟩
    · rw [hword] at hword'
      cases hword'
      rfl
    · exact absurd (hvalue ▸ hempty) hne'
  · rw [value_of_finalize h' (hvalue ▸ hne)]
    exact hvalue

/-- More rules behind the rules of a field leave its outcomes as they are, and its value too if none
of them chooses an example. -/
theorem aggregate_extend {xs ys : List String} {seed : String} {a b : Aggregate}
    (h : aggregate templates setting field (xs ++ ys) seed = .ok a)
    (hb : aggregate templates setting field xs seed = .ok b) :
    ∃ later, a.outcomes = b.outcomes ++ later ∧ later.map (·.raw) = ys ∧
      (NoneWith Effects.exemplifies later → a.entry.value = b.entry.value) := by
  obtain ⟨e, s, s', hrun, hfinal⟩ := aggregate_eq_ok h
  obtain ⟨d, t, t', hfront, hfinal'⟩ := aggregate_eq_ok hb
  obtain ⟨outcomes, e₁, s₁, later, hx, hy, hall⟩ := hrun.cut
  obtain ⟨rfl, rfl, rfl⟩ := hx.unique hfront
  refine ⟨later, hall, hy.raw_eq, ?_⟩
  intro hnone
  obtain ⟨hvalue, rfl⟩ := hy.value_of_noneWith hnone
  exact value_eq_of_finalize hvalue hfinal hfinal'

/-! ## All rules -/

/-- The field of some rules followed by others, from the fields of both, and of all of them in
another order.  The fields of some of the rules are there if the field of all is, but for a draw
that refuses every word it looks at. -/
theorem aggregate_append {xs ys : List String} {seed : String} {a : Aggregate}
    (h : aggregate templates setting field (xs ++ ys) seed = .ok a) :
    (∀ b c, aggregate templates setting field xs seed = .ok b →
        aggregate templates setting field ys seed = .ok c →
          a.entry.description = b.entry.description ++ c.entry.description ∧
            a.entry.required = (b.entry.required || c.entry.required)) ∧
      (∀ b, aggregate templates setting field xs seed = .ok b →
        ∃ later, a.outcomes = b.outcomes ++ later ∧ later.map (·.raw) = ys ∧
          (NoneWith Effects.exemplifies later → a.entry.value = b.entry.value)) ∧
      (∀ zs b, zs.Perm (xs ++ ys) → aggregate templates setting field zs seed = .ok b →
        b.entry.required = a.entry.required ∧
          b.entry.description.Perm a.entry.description) ∧
      ∀ zs, zs ⊆ xs ++ ys → (∃ b, aggregate templates setting field zs seed = .ok b) ∨
        aggregate templates setting field zs seed = .error .exhausted ∧
          RulesStall templates setting field zs seed := by
  refine ⟨?_, ?_, ?_, ?_⟩
  · intro b c hb hc
    rw [description_of_aggregate h, description_of_aggregate hb, description_of_aggregate hc,
      required_of_aggregate h, required_of_aggregate hb, required_of_aggregate hc]
    exact ⟨List.flatMap_append, List.any_append⟩
  · intro b hb
    exact aggregate_extend h hb
  · intro zs b hperm hb
    rw [description_of_aggregate h, description_of_aggregate hb, required_of_aggregate h,
      required_of_aggregate hb]
    exact ⟨hperm.any_eq, hperm.flatMap_right _⟩
  · intro zs hsubset
    exact aggregate_of_subset h hsubset seed

/-- A file and a bound behind a mark change the type and keep the value; two sizes describe
themselves one behind the other. -/
theorem aggregate_append_file_size :
    (∃ a b,
      aggregate (fun _ => ":min") .fixed "f" (["accepted", "size:2"] ++ ["file", "min:3"]) "s" =
          .ok a ∧
        aggregate (fun _ => ":min") .fixed "f" ["accepted", "size:2"] "s" = .ok b ∧
          a.entry.type = some .file ∧ b.entry.type = some .boolean ∧
            a.entry.value = b.entry.value) ∧
      ∃ a b c,
        aggregate (fun _ => ":min") .fixed "f"
            (["accepted", "size:2"] ++ ["custom", "size:3"]) "s" = .ok a ∧
          aggregate (fun _ => ":min") .fixed "f" ["accepted", "size:2"] "s" = .ok b ∧
            aggregate (fun _ => ":min") .fixed "f" ["custom", "size:3"] "s" = .ok c ∧
              a.entry.description = b.entry.description ++ c.entry.description := by
  constructor
  · obtain ⟨a, ha, htype, hnone⟩ : ∃ a,
        aggregate (fun _ => ":min") .fixed "f" (["accepted", "size:2"] ++ ["file", "min:3"]) "s" =
            .ok a ∧ a.entry.type = some .file ∧
          (a.outcomes.drop 2).all (fun o => !o.effects.exemplifies) = true := ⟨_, rfl, rfl, rfl⟩
    obtain ⟨b, hb, htype', hlength⟩ : ∃ b,
        aggregate (fun _ => ":min") .fixed "f" ["accepted", "size:2"] "s" = .ok b ∧
          b.entry.type = some .boolean ∧ b.outcomes.length = 2 := ⟨_, rfl, rfl, rfl⟩
    obtain ⟨later, hall, -, hvalue⟩ := (aggregate_append ha).2.1 b hb
    rw [hall, ← hlength, List.drop_left] at hnone
    refine ⟨a, b, ha, hb, htype, htype', hvalue ?_⟩
    intro o ho
    simpa using List.all_eq_true.mp hnone o ho
  · obtain ⟨a, ha⟩ : ∃ a, aggregate (fun _ => ":min") .fixed "f"
        (["accepted", "size:2"] ++ ["custom", "size:3"]) "s" = .ok a := ⟨_, rfl⟩
    obtain ⟨b, hb⟩ : ∃ b, aggregate (fun _ => ":min") .fixed "f" ["accepted", "size:2"] "s" =
        .ok b := ⟨_, rfl⟩
    obtain ⟨c, hc⟩ : ∃ c, aggregate (fun _ => ":min") .fixed "f" ["custom", "size:3"] "s" =
        .ok c := ⟨_, rfl⟩
    exact ⟨a, b, c, ha, hb, hc, ((aggregate_append ha).1 b c hb hc).1⟩

end FieldGuide
