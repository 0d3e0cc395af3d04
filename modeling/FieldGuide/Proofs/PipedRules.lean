import FieldGuide.Proofs.QuotedRows
import FieldGuide.Proofs.Retracing
import FieldGuide.Proofs.Trimming
set_option autoImplicit false

/-!
# Rules between pipes

The rules of a field may be supplied as one string with pipes between them.  Splitting that string
undoes joining, and leaves out the segments that are nothing but space.  Those would be rules of an
unknown name, which touch neither the entry nor the stream, so that leaving them out changes nothing
but the trace.
-/

namespace FieldGuide

/-! ## Rules of nothing but space -/

/-- No colon stands in a text of nothing but space. -/
theorem Rule.canonical_of_isBlank {raw : String} (h : Text.isBlank raw.toList = true) :
    canonical raw = ⟨"", []⟩ := by
  have hcolon : ':' ∉ raw.toList := fun hmem =>
    absurd (List.all_eq_true.mp h ':' hmem) (by decide)
  rw [canonical, ofText, cutAtColon?_of_notMem hcolon]
  dsimp only
  rw [nameOfText, Text.trim_of_isBlank h]
  rfl

variable {templates : Templates} {setting : Setting} {field : String}

theorem applyRule_of_isBlank {raw : String} (h : Text.isBlank raw.toList = true) (e : Entry) :
    applyRule templates setting field raw e = pure none := by
  rw [applyRule, Rule.canonical_of_isBlank h]
  rfl

/-! ## Leaving rules out -/

/-- The rule of the outcome is more than space. -/
def Outcome.isInked (o : Outcome) : Bool := !Text.isBlank o.raw.toList

/-- Rules of nothing but space can be left out: their outcomes are missing then, and nothing else
changes. -/
theorem traceOutcomes_filter (rules : List String) (e : Entry) :
    traceOutcomes templates setting field (rules.filter fun r => !Text.isBlank r.toList) e =
      (fun traced => (traced.1, traced.2.filter Outcome.isInked)) <$>
        traceOutcomes templates setting field rules e := by
  induction rules generalizing e with
  | nil => rfl
  | cons raw raws ih =>
    have hinked (dispatch : Dispatch) :
        (Rule.outcome raw dispatch).isInked = !Text.isBlank raw.toList := rfl
    rw [traceOutcomes_cons raw raws e]
    cases h : Text.isBlank raw.toList with
    | true =>
      rw [applyRule_of_isBlank h, pure_bind, Functor.map_map, List.filter_cons_of_neg (by simp [h])]
      simp only [List.filter_cons, hinked, h]
      exact ih e
    | false =>
      rw [List.filter_cons_of_pos (by simp [h]), traceOutcomes_cons, map_bind]
      refine bind_congr ?_
      intro result
      rw [ih, Functor.map_map, Functor.map_map]
      simp only [List.filter_cons, hinked, h]
      rfl

theorem map_aggregate_filter (rules : List String) (seed : String) :
    (aggregate templates setting field (rules.filter fun r => !Text.isBlank r.toList) seed).map
        (fun a => (a.entry, a.outcomes)) =
      (aggregate templates setting field rules seed).map
        (fun a => (a.entry, a.outcomes.filter Outcome.isInked)) :=
  (aggregate_of_outcomes (traceOutcomes_filter rules {}) seed).2

theorem aggregateEntry_filter (rules : List String) (seed : String) :
    aggregateEntry templates setting field (rules.filter fun r => !Text.isBlank r.toList) seed =
      aggregateEntry templates setting field rules seed :=
  (aggregate_of_outcomes (traceOutcomes_filter rules {}) seed).1

/-! ## Splitting and joining -/

theorem not_mem_of_mem_splitOn {c : Char} {cs piece : List Char} (h : piece ∈ cs.splitOn c) :
    c ∉ piece := by
  induction cs generalizing piece with
  | nil =>
    rw [List.splitOn_nil, List.mem_singleton] at h
    simp [h]
  | cons d cs ih =>
    rw [List.splitOn_cons_eq_if_modifyHead] at h
    split at h
    · rcases List.mem_cons.mp h with rfl | hrest
      · simp
      · exact ih hrest
    · rename_i hne
      obtain ⟨head, rest, hsplit⟩ := List.exists_cons_of_ne_nil (List.splitOn_ne_nil c cs)
      rw [hsplit, List.modifyHead_cons, List.mem_cons] at h
      rcases h with rfl | hrest
      · have hhead : c ∉ head := ih (hsplit ▸ List.mem_cons_self)
        have hcd : c ≠ d := by
          rintro rfl
          simp at hne
        simp [hhead, hcd]
      · exact ih (hsplit ▸ List.mem_cons_of_mem head hrest)

namespace RuleText

/-- The rules of a list with pipes between them. -/
def joinPipes (rules : List String) : String := "|".intercalate rules

/-- A rule that can stand between pipes: it has no pipe, and is not all space. -/
def FitsPipes (rule : String) : Prop := '|' ∉ rule.toList ∧ Text.isBlank rule.toList = false

theorem segments_joinPipes {rules : List String} (hpipe : ∀ r ∈ rules, '|' ∉ r.toList)
    (hne : rules ≠ []) : segments (joinPipes rules) = rules := by
  have hsplit : (joinPipes rules).toList.splitOn '|' = rules.map String.toList := by
    rw [joinPipes, String.toList_intercalate]
    exact List.splitOn_intercalate '|' (by simpa using hpipe) (by simpa using hne)
  rw [segments, hsplit, List.map_map]
  simp

/-- Splitting gives back the rules that were joined. -/
theorem splitPipes_joinPipes {rules : List String} (h : ∀ r ∈ rules, FitsPipes r) :
    splitPipes (joinPipes rules) = rules := by
  by_cases hne : rules = []
  · subst hne
    rfl
  · rw [splitPipes, segments_joinPipes (fun r hr => (h r hr).1) hne, List.filter_eq_self]
    intro r hr
    simp [(h r hr).2]

theorem fitsPipes_of_mem_splitPipes {text rule : String} (h : rule ∈ splitPipes text) :
    FitsPipes rule := by
  obtain ⟨hsegment, hinked⟩ := List.mem_filter.mp h
  obtain ⟨piece, hpiece, rfl⟩ := List.mem_map.mp hsegment
  refine ⟨?_, by simpa using hinked⟩
  rw [String.toList_ofList]
  exact not_mem_of_mem_splitOn hpiece

end RuleText

/-- One string with pipes documents a field as the list of all its segments does, blank segments
included, but for the outcomes of these; and splitting undoes joining. -/
theorem aggregate_piped (templates : Templates) (setting : Setting) (field text seed : String) :
    aggregateEntry templates setting field (RuleText.piped text).rules seed =
        aggregateEntry templates setting field
          (RuleText.listed (RuleText.segments text)).rules seed ∧
      (aggregate templates setting field (RuleText.piped text).rules seed).map
          (fun a => (a.entry, a.outcomes)) =
        (aggregate templates setting field
            (RuleText.listed (RuleText.segments text)).rules seed).map
          (fun a => (a.entry, a.outcomes.filter fun o => !Text.isBlank o.raw.toList)) ∧
      (∀ rules : List String,
        (∀ r ∈ rules, '|' ∉ r.toList ∧ Text.isBlank r.toList = false) →
          RuleText.splitPipes (RuleText.joinPipes rules) = rules) ∧
      RuleText.splitPipes (RuleText.joinPipes (RuleText.splitPipes text)) =
        RuleText.splitPipes text := by
  refine ⟨aggregateEntry_filter _ seed, map_aggregate_filter _ seed, ?_, ?_⟩
  · intro rules h
    exact RuleText.splitPipes_joinPipes h
  · exact RuleText.splitPipes_joinPipes fun r hr => RuleText.fitsPipes_of_mem_splitPipes hr

/-- An ideographic space and nothing at all between pipes. -/
theorem aggregate_piped_blank :
    (∀ r ∈ ["accepted", " min:3"], '|' ∉ r.toList ∧ Text.isBlank r.toList = false) ∧
      RuleText.splitPipes (RuleText.joinPipes ["accepted", " min:3"]) = ["accepted", " min:3"] ∧
      aggregateEntry (fun _ => ":min") .fixed "f"
          (RuleText.piped "accepted|\u3000|| min:3").rules "s" =
        aggregateEntry (fun _ => ":min") .fixed "f" ["accepted", "\u3000", "", " min:3"] "s" := by
  obtain ⟨hentry, -, hjoin, -⟩ :=
    aggregate_piped (fun _ => ":min") .fixed "f" "accepted|\u3000|| min:3" "s"
  exact ⟨by decide, hjoin _ (by decide), hentry⟩

end FieldGuide
