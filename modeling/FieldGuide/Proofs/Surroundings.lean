import FieldGuide.Proofs.Counterparts
set_option autoImplicit false

/-!
# What the field and its setting influence

The name of a field shows in the columns that rules leave unnamed, and nowhere else.  The setting
shows in date phrases and in the reference time.  Where dates are written in figures, nothing but an
example of the reference time depends on it; and a mark or a type never does, even where a date
phrase can be read against one setting and not against another.
-/

namespace FieldGuide

variable {templates : Templates} {setting : Setting} {field : String} {rules : List String}
  {seed : String} {a : Aggregate}

/-- The rule of the outcome takes the name of the field for a column, since it names none itself. -/
def Outcome.NamesColumnByField (o : Outcome) : Prop :=
  o.rule = Kind.existing.name ∧ o.parameters.length = 1

/-- A field of another name differs in the columns that take its name. -/
theorem aggregate_of_other_field (h : aggregate templates setting field rules seed = .ok a)
    (field' : String) :
    ∃ b, aggregate templates setting field' rules seed = .ok b ∧ a.InStep b ∧
      b.entry.value = a.entry.value ∧ a.SharesFragments (¬ ·.NamesColumnByField) b := by
  obtain ⟨b, hb, hinStep, hvalue⟩ := aggregate_counterpart templates field' h (.inl rfl)
  refine ⟨b, hb, hinStep, hvalue fun _ _ _ => .inl rfl, ?_⟩
  refine sharesFragments_of_described (described_of_aggregate h) (described_of_aggregate hb)
    hinStep ?_
  intro o ho hnamed fragment fragment' hfragment hfragment'
  refine hfragment.eq_of hfragment' rfl (fun _ => .inl rfl) ?_
  intro hrule
  exact .inr fun hlength => hnamed ⟨hrule, hlength⟩

/-- With dates in figures, a field in another setting differs in a reference time that is shown. -/
theorem aggregate_of_other_setting (h : aggregate templates setting field rules seed = .ok a)
    (setting' : Setting) (hfigures : ∀ raw ∈ rules, Rule.BoundInFigures raw) :
    ∃ b, aggregate templates setting' field rules seed = .ok b ∧ a.InStep b ∧
      b.entry.description = a.entry.description ∧
        ((∀ index o, LastWith Effects.exemplifies a.outcomes index o →
            o.rule ≠ Kind.dateFormat.name) → b.entry.value = a.entry.value) := by
  obtain ⟨b, hb, hinStep, hvalue⟩ := aggregate_counterpart templates field h (.inr hfigures)
  refine ⟨b, hb, hinStep, ?_, fun hlast => hvalue fun index o ho => .inr (hlast index o ho)⟩
  refine Aggregate.SharesFragments.description_eq ?_
  refine sharesFragments_of_described (described_of_aggregate h) (described_of_aggregate hb)
    hinStep ?_
  intro o ho _ fragment fragment' hfragment hfragment'
  refine hfragment.eq_of hfragment' rfl ?_ (fun _ => .inl rfl)
  intro hrule
  obtain ⟨e, s, s', hrun, -⟩ := aggregate_eq_ok h
  obtain ⟨raw, hraw, hshape⟩ := hrun.outcome_of_mem ho
  rw [hshape] at hrule ⊢
  exact .inr (hfigures raw hraw hrule)

/-- The name of a field and its setting influence what they are meant to, and nothing else. -/
theorem aggregate_other_field_setting
    (h : aggregate templates setting field rules seed = .ok a) :
    (∀ field', ∃ b, aggregate templates setting field' rules seed = .ok b ∧ a.InStep b ∧
        b.entry.value = a.entry.value ∧ a.SharesFragments (¬ ·.NamesColumnByField) b) ∧
      ∀ setting',
        (∀ b, aggregate templates setting' field rules seed = .ok b →
          b.entry.required = a.entry.required ∧ b.entry.type = a.entry.type) ∧
        ((∀ raw ∈ rules, Rule.BoundInFigures raw) →
          ∃ b, aggregate templates setting' field rules seed = .ok b ∧ a.InStep b ∧
            b.entry.description = a.entry.description ∧
              ((∀ index o, LastWith Effects.exemplifies a.outcomes index o →
                  o.rule ≠ Kind.dateFormat.name) → b.entry.value = a.entry.value)) := by
  refine ⟨aggregate_of_other_field h, fun setting' => ⟨?_, aggregate_of_other_setting h setting'⟩⟩
  intro b hb
  rw [required_of_aggregate hb, required_of_aggregate h, type_of_aggregate hb, type_of_aggregate h]
  exact ⟨rfl, rfl⟩

/-- A column takes the name of the field, and the reference time is shown and then covered by the
day behind a date in figures. -/
theorem aggregate_other_field_setting_column :
    ∃ a b c,
      aggregate (fun _ => ":table :column") .fixed "user_id"
          ["exists:users", "date_format:Y-m-d", "after: 2020-02-28", "exists:users,key"] "s" =
          .ok a ∧
        aggregate (fun _ => ":table :column") .fixed "owner_id"
            ["exists:users", "date_format:Y-m-d", "after: 2020-02-28", "exists:users,key"] "s" =
            .ok b ∧
          aggregate (fun _ => ":table :column") ⟨.ofDate Calendar.epoch, .us⟩ "user_id"
              ["exists:users", "date_format:Y-m-d", "after: 2020-02-28", "exists:users,key"] "s" =
              .ok c ∧
            b.entry.value = a.entry.value ∧ a.SharesFragments (¬ ·.NamesColumnByField) b ∧
              c.entry.description = a.entry.description ∧ c.entry.value = a.entry.value := by
  obtain ⟨a, ha, x, y, o, z, houtcomes, hexample, hnone, hrule⟩ : ∃ a,
      aggregate (fun _ => ":table :column") .fixed "user_id"
          ["exists:users", "date_format:Y-m-d", "after: 2020-02-28", "exists:users,key"] "s" =
          .ok a ∧
        ∃ x y o z, a.outcomes = [x, y] ++ o :: [z] ∧ o.effects.exemplifies = true ∧
          z.effects.exemplifies = false ∧ o.rule = Kind.after.name :=
    ⟨_, rfl, _, _, _, _, rfl, rfl, rfl, rfl⟩
  have hlast : LastWith Effects.exemplifies a.outcomes 2 o := by
    rw [houtcomes]
    refine lastWith_append hexample ?_
    simpa [NoneWith] using hnone
  have hfigures : ∀ raw ∈ ["exists:users", "date_format:Y-m-d", "after: 2020-02-28",
      "exists:users,key"], Rule.BoundInFigures raw := by
    intro raw hmem hname
    simp only [List.mem_cons, List.not_mem_nil, or_false] at hmem
    rcases hmem with rfl | rfl | rfl | rfl
    · exact absurd hname (by decide)
    · exact absurd hname (by decide)
    · rintro bound ⟨⟩
      exact ⟨_, rfl⟩
    · exact absurd hname (by decide)
  obtain ⟨b, hb, -, hvalue, hshares⟩ := (aggregate_other_field_setting ha).1 "owner_id"
  obtain ⟨c, hc, -, hdescription, hvalue'⟩ :=
    ((aggregate_other_field_setting ha).2 ⟨.ofDate Calendar.epoch, .us⟩).2 hfigures
  refine ⟨a, b, c, ha, hb, hc, hvalue, hshares, hdescription, hvalue' ?_⟩
  intro index p hp
  rw [hp.unique hlast, hrule]
  decide

end FieldGuide
