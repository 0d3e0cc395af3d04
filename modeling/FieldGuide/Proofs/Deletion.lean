import FieldGuide.Proofs.Runs
set_option autoImplicit false

/-!
# Deleting rules

A rule that has had no effect, or none but a description, can be deleted from the rules of its
field.  It has left the type, the value and the stream where they were, so that every later rule
does what it did, and no rule reads the description.
-/

namespace FieldGuide

/-- The rule had no effect but a description. -/
def Effects.OnlyDescribes (e : Effects) : Prop :=
  e.required = false ∧ e.forcesType = false ∧ e.defaultsType = false ∧ e.exemplifies = false

/-- The rule was not known, or it had no effect but a description. -/
def Dispatch.Idle : Dispatch → Prop
  | unknown => True
  | applied effects _ => effects.OnlyDescribes

theorem Outcome.onlyDescribes_of_idle {o : Outcome} (h : o.dispatch.Idle) :
    o.effects.OnlyDescribes := by
  unfold Outcome.effects
  cases hdispatch : o.dispatch with
  | unknown => exact ⟨rfl, rfl, rfl, rfl⟩
  | applied effects dropped =>
    rw [hdispatch] at h
    exact h

variable {templates : Templates} {setting : Setting} {field : String}

theorem Step.of_onlyDescribes {raw : String} {e e' : Entry} {s s' : Stream} {o : Outcome}
    (h : Step templates setting field raw e s o e' s') (hidle : o.effects.OnlyDescribes) :
    s' = s ∧ { e' with description := e.description } = e := by
  obtain ⟨hrequired, hforces, hdefaults, hexample⟩ := hidle
  obtain ⟨hvalue, hstream⟩ := h.value_of_not_exemplifies hexample
  have hmark := h.required_eq
  have htype := h.type_of_not_sets (by rw [Effects.setsType, hforces, hdefaults]; rfl)
  rw [hrequired, Bool.or_false] at hmark
  refine ⟨hstream, ?_⟩
  rw [hmark, htype, hvalue]

/-- Deleting a rule from a run takes its outcome and its fragment away, and nothing else. -/
theorem Run.delete {xs ys : List String} {raw : String} {e e' : Entry} {s s' : Stream}
    {all : List Outcome} {o : Outcome}
    (h : Run templates setting field (xs ++ raw :: ys) e s all e' s')
    (ho : all[xs.length]? = some o) (hidle : o.effects.OnlyDescribes) :
    ∃ before own after, Described templates setting field (all.take xs.length) before ∧
      Described templates setting field [o] own ∧
        Described templates setting field (all.drop (xs.length + 1)) after ∧
          e'.description = e.description ++ before ++ own ++ after ∧
            Run templates setting field (xs ++ ys) e s (all.eraseIdx xs.length)
              { e' with description := e.description ++ before ++ after } s' := by
  obtain ⟨outcomes, e₁, s₁, later, hx, hrest, rfl⟩ := h.cut
  rw [← hx.length_eq] at ho ⊢
  cases hrest with
  | @cons _ _ _ e₂ _ _ s₂ _ o' rest step hy =>
    obtain rfl : o' = o := by simpa using ho
    obtain ⟨before, hbefore, hgrown, -⟩ := hx.frame
    obtain ⟨own, hown, hgrown₂, -⟩ := step.frame
    obtain ⟨after, hafter, hgrown₃, hframe⟩ := hy.frame
    obtain ⟨rfl, hsame⟩ := step.of_onlyDescribes hidle
    -- The later rules run from the entry before the deleted rule as they ran from the one behind
    -- it: the two differ in their descriptions alone.
    have hrest := hframe e₁.description
    rw [hsame] at hrest
    have hrun := hx.append hrest
    have hdrop : (outcomes ++ o' :: rest).drop (outcomes.length + 1) = rest := by simp
    refine ⟨before, own, after, ?_, hown, ?_, ?_, ?_⟩
    · rwa [List.take_left]
    · rwa [hdrop]
    · rw [hgrown₃, hgrown₂, hgrown]
    · rw [List.eraseIdx_append_of_length_le (Nat.le_refl _), Nat.sub_self, ← hgrown]
      exact hrun

/-- The traced field `b` is `a` without the outcome at an index, and without the fragment of that
outcome if it has one. -/
structure Aggregate.Without (templates : Templates) (setting : Setting) (field : String)
    (a : Aggregate) (index : Nat) (b : Aggregate) : Prop where
  required : b.entry.required = a.entry.required
  type : b.entry.type = a.entry.type
  value : b.entry.value = a.entry.value
  outcomes : b.outcomes = a.outcomes.eraseIdx index
  description : ∃ o before own after, a.outcomes[index]? = some o ∧
    Described templates setting field (a.outcomes.take index) before ∧
      Described templates setting field (a.outcomes.drop (index + 1)) after ∧
        (o.effects.describes = true ∧
            (∃ fragment, own = [fragment] ∧ o.HasFragment templates setting field fragment) ∨
          o.effects.describes = false ∧ own = []) ∧
          a.entry.description = before ++ own ++ after ∧ b.entry.description = before ++ after

/-- A rule without effects on the state of its field can be deleted from anywhere in a list of
rules. -/
theorem aggregate_delete {xs ys : List String} {raw seed : String} {a : Aggregate} {o : Outcome}
    (h : aggregate templates setting field (xs ++ [raw] ++ ys) seed = .ok a)
    (ho : a.outcomes[xs.length]? = some o) (hidle : o.dispatch.Idle) :
    ∃ b, aggregate templates setting field (xs ++ ys) seed = .ok b ∧
      a.Without templates setting field xs.length b := by
  obtain ⟨e, s, s', hrun, hfinal⟩ := aggregate_eq_ok h
  rw [List.append_assoc] at hrun
  obtain ⟨before, own, after, hbefore, hown, hafter, hgrown, hshorter⟩ :=
    hrun.delete ho (Outcome.onlyDescribes_of_idle hidle)
  obtain ⟨b, hb, hentry, houtcomes⟩ := aggregate_of_run hshorter (finalize_frame hfinal _)
  refine ⟨b, hb, ?_⟩
  constructor
  case required => rw [hentry]
  case type => rw [hentry]
  case value => rw [hentry]
  case outcomes => exact houtcomes
  case description =>
    refine ⟨o, before, own, after, ho, hbefore, hafter, described_singleton.mp hown, ?_, ?_⟩
    · rw [description_of_finalize hfinal, hgrown]
      rfl
    · rw [hentry]
      rfl

/-- The bound of a field that holds no numbers describes itself only. -/
theorem aggregate_delete_bound :
    ∃ a o, aggregate (fun _ => ":min") .fixed "f" (["boolean"] ++ ["min:3"] ++ ["accepted"]) "s" =
        .ok a ∧ a.outcomes[1]? = some o ∧ o.dispatch.Idle ∧ a.entry.description.length = 1 ∧
      ∃ b, aggregate (fun _ => ":min") .fixed "f" (["boolean"] ++ ["accepted"]) "s" = .ok b ∧
        a.Without (fun _ => ":min") .fixed "f" 1 b := by
  refine ⟨_, _, rfl, rfl, ⟨rfl, rfl, rfl, rfl⟩, rfl, ?_⟩
  exact @aggregate_delete _ _ _ ["boolean"] ["accepted"] "min:3" "s" _ _ rfl rfl
    ⟨rfl, rfl, rfl, rfl⟩

end FieldGuide
