import FieldGuide.Proofs.Runs
set_option autoImplicit false

/-!
# Outcomes without events

The traced pass over the rules of a field with the entry and the outcomes alone.  Where two lists of
rules leave the same entry there, and the outcomes of one are told from those of the other, the
same holds of the fields that they document.
-/

namespace FieldGuide

variable {templates : Templates} {setting : Setting} {field : String}

/-- The entry behind a rule. -/
def entryBehind (e : Entry) : Option Application → Entry
  | none => e
  | some a => a.entry

/-- What applying a rule came to. -/
def dispatchOf : Option Application → Dispatch
  | none => .unknown
  | some a => .applied a.effects a.dropped

/-- The traced pass without its events. -/
def traceOutcomes (templates : Templates) (setting : Setting) (field : String)
    (rules : List String) (e : Entry) : Sampler (Entry × List Outcome) :=
  (fun traced => (traced.1, traced.2.1)) <$> traceRules templates setting field rules e

theorem traceOutcomes_cons (raw : String) (raws : List String) (e : Entry) :
    traceOutcomes templates setting field (raw :: raws) e = (do
      let result ← applyRule templates setting field raw e
      (fun traced => (traced.1, Rule.outcome raw (dispatchOf result) :: traced.2)) <$>
        traceOutcomes templates setting field raws (entryBehind e result)) := by
  unfold traceOutcomes
  rw [traceRules, traceRule]
  simp only [bind_assoc, map_bind, Functor.map_map]
  refine bind_congr ?_
  intro result
  cases result <;> simp [entryBehind, dispatchOf, Rule.outcome]

/-- The entry and the outcomes of a traced field. -/
theorem map_aggregate_eq (rules : List String) (seed : String) :
    (aggregate templates setting field rules seed).map (fun a => (a.entry, a.outcomes)) =
      Sampler.onSeed seed (do
        let traced ← traceOutcomes templates setting field rules {}
        return (← finalize traced.1, traced.2)) := by
  unfold aggregate traceOutcomes
  rw [← Sampler.onSeed_map, map_bind, bind_map_left]
  refine congrArg (Sampler.onSeed seed) (bind_congr ?_)
  intro traced
  simp

/-- Rules whose pass differs in its outcomes only document a field alike. -/
theorem aggregate_of_outcomes {rules rules' : List String} {g : List Outcome → List Outcome}
    (h : traceOutcomes templates setting field rules' {} =
      (fun traced => (traced.1, g traced.2)) <$> traceOutcomes templates setting field rules {})
    (seed : String) :
    aggregateEntry templates setting field rules' seed =
        aggregateEntry templates setting field rules seed ∧
      (aggregate templates setting field rules' seed).map (fun a => (a.entry, a.outcomes)) =
        (aggregate templates setting field rules seed).map
          (fun a => (a.entry, g a.outcomes)) := by
  have houtcomes : (aggregate templates setting field rules seed).map
      (fun a => (a.entry, g a.outcomes)) =
        ((aggregate templates setting field rules seed).map fun a => (a.entry, a.outcomes)).map
          (fun traced => (traced.1, g traced.2)) := by
    cases aggregate templates setting field rules seed <;> rfl
  have hall : (aggregate templates setting field rules' seed).map
      (fun a => (a.entry, a.outcomes)) =
        (aggregate templates setting field rules seed).map (fun a => (a.entry, g a.outcomes)) := by
    rw [houtcomes, map_aggregate_eq, map_aggregate_eq, h, ← Sampler.onSeed_map, bind_map_left,
      map_bind]
    refine congrArg (Sampler.onSeed seed) (bind_congr ?_)
    intro traced
    simp
  refine ⟨?_, hall⟩
  have hentry := congrArg (Except.map Prod.fst) hall
  rw [aggregateEntry_eq, aggregateEntry_eq]
  revert hentry
  cases aggregate templates setting field rules seed <;>
    cases aggregate templates setting field rules' seed <;>
    simp [Except.map]

end FieldGuide
