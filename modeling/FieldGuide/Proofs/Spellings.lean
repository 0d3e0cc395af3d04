import FieldGuide.Proofs.QuotedRows
import FieldGuide.Proofs.Retracing
import FieldGuide.Proofs.SmallLetters
set_option autoImplicit false

/-!
# Spellings of a rule

The spaces around the name of a rule, the case of its letters and the choice between a short name
and a long one are of no account.  A rule can be written under its canonical name, with the text
behind its colon as it is: it is read as the same rule then, and in the trace of a field nothing
changes but the text of the rule.
-/

namespace FieldGuide

namespace Rule

/-! ## Names -/

theorem nameOfText_nameOfText (text : List Char) :
    nameOfText (nameOfText text).toList = nameOfText text := by
  have htrim : Text.trim (Text.lower (Text.trim text)) = Text.lower (Text.trim text) :=
    Text.trim_of_isTrimmed (Text.isTrimmed_lower (Text.isTrimmed_trim text))
  rw [nameOfText, nameOfText, String.toList_ofList, htrim, Text.lower_lower]

theorem colon_notMem_nameOfText {text : List Char} (h : ':' ∉ text) :
    ':' ∉ (nameOfText text).toList := by
  intro hmem
  rw [nameOfText, String.toList_ofList] at hmem
  exact h (Text.trim_subset text (Text.mem_of_mem_lower (by decide) hmem))

/-- A name is its own canonical name, or it is a short one. -/
theorem canonicalName_cases (name : String) :
    canonicalName name = name ∨ name = "int" ∧ canonicalName name = "integer" ∨
      name = "bool" ∧ canonicalName name = "boolean" := by
  unfold canonicalName
  split
  · rename_i hint
    exact .inr (.inl ⟨hint, rfl⟩)
  · split
    · rename_i hbool
      exact .inr (.inr ⟨hbool, rfl⟩)
    · exact .inl rfl

theorem canonicalName_canonicalName (name : String) :
    canonicalName (canonicalName name) = canonicalName name := by
  rcases canonicalName_cases name with h | ⟨-, h⟩ | ⟨-, h⟩
  · rw [h, h]
  · rw [h]
    decide
  · rw [h]
    decide

theorem parametersOfText_canonicalName (name : String) (after : List Char) :
    parametersOfText (canonicalName name) after = parametersOfText name after := by
  rcases canonicalName_cases name with h | ⟨rfl, h⟩ | ⟨rfl, h⟩
  · rw [h]
  · rw [h]
    rfl
  · rw [h]
    rfl

/-- A canonical name is read as itself and has no colon. -/
theorem nameOfText_canonicalName {text : List Char} (h : ':' ∉ text) :
    nameOfText (canonicalName (nameOfText text)).toList = canonicalName (nameOfText text) ∧
      ':' ∉ (canonicalName (nameOfText text)).toList := by
  rcases canonicalName_cases (nameOfText text) with heq | ⟨-, heq⟩ | ⟨-, heq⟩
  · rw [heq]
    exact ⟨nameOfText_nameOfText text, colon_notMem_nameOfText h⟩
  · rw [heq]
    decide +kernel
  · rw [heq]
    decide +kernel

/-! ## Rules -/

/-- A rule without a colon. -/
theorem canonical_of_notMem {raw : String} (h : ':' ∉ raw.toList) :
    canonical raw = ⟨canonicalName (nameOfText raw.toList), []⟩ := by
  rw [canonical, ofText, cutAtColon?_of_notMem h]

/-- A rule with a colon. -/
theorem canonical_append {raw : String} {before after : List Char} (h : ':' ∉ before)
    (hraw : raw.toList = before ++ ':' :: after) :
    canonical raw =
      ⟨canonicalName (nameOfText before), parametersOfText (nameOfText before) after⟩ := by
  rw [canonical, ofText, hraw, cutAtColon?_append h]

/-- The canonical spelling of a rule: its canonical name, and its text from the first colon on. -/
def canonicalText (raw : String) : String :=
  (canonical raw).name ++ String.ofList (raw.toList.dropWhile (· ≠ ':'))

theorem canonicalText_of_notMem {raw : String} (h : ':' ∉ raw.toList) :
    canonicalText raw = canonicalName (nameOfText raw.toList) := by
  rw [canonicalText, canonical_of_notMem h, dropWhile_ne_colon_of_notMem h]
  exact String.append_empty

theorem toList_canonicalText_append {raw : String} {before after : List Char} (h : ':' ∉ before)
    (hraw : raw.toList = before ++ ':' :: after) :
    (canonicalText raw).toList = (canonicalName (nameOfText before)).toList ++ ':' :: after := by
  rw [canonicalText, canonical_append h hraw, hraw, dropWhile_ne_colon_append h,
    String.toList_append, String.toList_ofList]

/-- The canonical spelling of a rule is read as the rule, and is spelled canonically. -/
theorem canonical_canonicalText (raw : String) :
    canonical (canonicalText raw) = canonical raw ∧
      canonicalText (canonicalText raw) = canonicalText raw := by
  by_cases hcolon : ':' ∈ raw.toList
  · obtain ⟨before, after, hraw, hbefore⟩ := List.eq_append_cons_of_mem hcolon
    obtain ⟨hname, hnoColon⟩ := nameOfText_canonicalName hbefore
    have htext := toList_canonicalText_append hbefore hraw
    constructor
    · rw [canonical_append hnoColon htext, canonical_append hbefore hraw, hname,
        canonicalName_canonicalName, parametersOfText_canonicalName]
    · rw [← String.toList_inj, toList_canonicalText_append hnoColon htext, htext, hname,
        canonicalName_canonicalName]
  · obtain ⟨hname, hnoColon⟩ := nameOfText_canonicalName hcolon
    rw [← canonicalText_of_notMem hcolon] at hname hnoColon
    have hcanonical : canonicalName (canonicalText raw) = canonicalText raw := by
      rw [canonicalText_of_notMem hcolon, canonicalName_canonicalName]
    constructor
    · rw [canonical_of_notMem hnoColon, canonical_of_notMem hcolon, hname, hcanonical,
        canonicalText_of_notMem hcolon]
    · rw [canonicalText_of_notMem hnoColon, hname, hcanonical]

/-- The text of a regular expression is kept whole, however the name is written. -/
theorem canonical_pattern {before : String} (hbefore : ':' ∉ before.toList)
    (hname : nameOfText before.toList = pattern) (after : String) :
    canonical (before ++ ":" ++ after) = ⟨pattern, [after]⟩ := by
  have htext : (before ++ ":" ++ after).toList = before.toList ++ ':' :: after.toList := by simp
  rw [canonical_append hbefore htext, hname, parametersOfText, if_pos rfl, String.ofList_toList]
  rfl

end Rule

/-! ## Fields -/

variable {templates : Templates} {setting : Setting} {field : String}

/-- A rule in the place of another one that is read alike changes the text in one outcome. -/
theorem traceOutcomes_of_canonical {raw raw' : String}
    (h : Rule.canonical raw' = Rule.canonical raw) (xs ys : List String) (e : Entry) :
    traceOutcomes templates setting field (xs ++ raw' :: ys) e =
      (fun traced => (traced.1, traced.2.modify xs.length fun o => { o with raw := raw' })) <$>
        traceOutcomes templates setting field (xs ++ raw :: ys) e := by
  induction xs generalizing e with
  | nil =>
    have hrule : applyRule templates setting field raw' e =
        applyRule templates setting field raw e := by
      rw [applyRule, applyRule, h]
    rw [List.nil_append, List.nil_append, traceOutcomes_cons, traceOutcomes_cons, hrule, map_bind]
    refine bind_congr ?_
    intro result
    rw [Functor.map_map, Rule.outcome, h]
    rfl
  | cons x xs ih =>
    rw [List.cons_append, List.cons_append, traceOutcomes_cons, traceOutcomes_cons, map_bind]
    refine bind_congr ?_
    intro result
    rw [ih, Functor.map_map, Functor.map_map]
    rfl

/-- The canonical spelling of a rule, in the place of the rule in any list, leaves everything as it
was but the text of the rule in its outcome; it is read as the rule itself, and it is its own
canonical spelling.  The text of a regular expression is kept whole. -/
theorem aggregate_canonicalText (templates : Templates) (setting : Setting) (field : String)
    (xs ys : List String) (raw seed : String) :
    aggregateEntry templates setting field (xs ++ Rule.canonicalText raw :: ys) seed =
        aggregateEntry templates setting field (xs ++ raw :: ys) seed ∧
      (aggregate templates setting field (xs ++ Rule.canonicalText raw :: ys) seed).map
          (fun a => (a.entry, a.outcomes)) =
        (aggregate templates setting field (xs ++ raw :: ys) seed).map
          (fun a => (a.entry, a.outcomes.modify xs.length
            fun o => { o with raw := Rule.canonicalText raw })) ∧
      Rule.canonical (Rule.canonicalText raw) = Rule.canonical raw ∧
      Rule.canonicalText (Rule.canonicalText raw) = Rule.canonicalText raw ∧
      ∀ before after : String, ':' ∉ before.toList →
        Rule.nameOfText before.toList = Rule.pattern →
          Rule.canonical (before ++ ":" ++ after) = ⟨Rule.pattern, [after]⟩ ∧
            Rule.canonicalText (before ++ ":" ++ after) = Rule.pattern ++ ":" ++ after := by
  obtain ⟨hread, hspelled⟩ := Rule.canonical_canonicalText raw
  obtain ⟨hentry, houtcomes⟩ := aggregate_of_outcomes
    (@traceOutcomes_of_canonical templates setting field _ _ hread xs ys {}) seed
  refine ⟨hentry, houtcomes, hread, hspelled, ?_⟩
  intro before after hbefore hname
  refine ⟨Rule.canonical_pattern hbefore hname after, ?_⟩
  have htext : (before ++ ":" ++ after).toList = before.toList ++ ':' :: after.toList := by simp
  rw [← String.toList_inj, Rule.toList_canonicalText_append hbefore htext, hname]
  simp [Rule.pattern, Rule.canonicalName]

/-- A short name between an ideographic space and a tab, and a pattern of all that rows treat
specially. -/
theorem aggregate_canonicalText_hard :
    ':' ∉ "\u00a0ReGeX ".toList ∧ Rule.nameOfText "\u00a0ReGeX ".toList = Rule.pattern ∧
      Rule.canonical ("\u00a0ReGeX " ++ ":" ++ "\u0000a,\"b:\"") =
        ⟨Rule.pattern, ["\u0000a,\"b:\""]⟩ ∧
      aggregateEntry (fun _ => ":min") .fixed "f" (["min:3"] ++ "boolean: x" :: ["size:2"]) "s" =
        aggregateEntry (fun _ => ":min") .fixed "f"
          (["min:3"] ++ "\u3000BOOL\t: x" :: ["size:2"]) "s" := by
  have hcolon : ':' ∉ "\u00a0ReGeX ".toList := by decide
  have hname : Rule.nameOfText "\u00a0ReGeX ".toList = Rule.pattern := by decide
  have hspelled : Rule.canonicalText "\u3000BOOL\t: x" = "boolean: x" := by decide
  obtain ⟨hentry, -, -, -, hpattern⟩ := aggregate_canonicalText (fun _ => ":min") .fixed "f"
    ["min:3"] ["size:2"] "\u3000BOOL\t: x" "s"
  rw [hspelled] at hentry
  exact ⟨hcolon, hname, (hpattern _ _ hcolon hname).1, hentry⟩

end FieldGuide
