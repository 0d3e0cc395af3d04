import FieldGuide.Console.Session
import FieldGuide.Proofs.Explanation
import FieldGuide.Proofs.LogLines
import FieldGuide.Proofs.Verbosity
set_option autoImplicit false

/-!
# The log and the trace

The log is written while rules are taken apart and applied, and the trace is put together when that
is done.  What the log tells can be told from the trace: every outcome has its events, and the log
of a request consists of those that its filter shows, field by field and rule by rule.  The filter
is that of the verbosity unless the environment gives another one.
-/

namespace FieldGuide

/-! ## The events of an outcome -/

namespace Outcome

variable (field : String) (o : Outcome)

/-- The kind of the rule describes its field, but the rule did not. -/
def losesDescription : Bool :=
  (Kind.ofName? o.rule).any (·.spec.describing.isSome) && !o.effects.describes

/-- The event of an error that dropped a description or an example. -/
def droppedEvent (description : Bool) (error : RuleError) : Event :=
  if description then .droppedDescription error field else .droppedExample error field

/-- The events of dropped errors in order.  Only the first one can be that of a description. -/
def droppedEvents (description : Bool) : List RuleError → List Event
  | [] => []
  | error :: errors =>
    droppedEvent field description error :: errors.map (droppedEvent field false)

/-- What went wrong with a rule: its kind is unknown, or effects were dropped. -/
def mishaps : List Event :=
  match o.dispatch with
  | .unknown => [.unknownRule o.rule field]
  | .applied _ dropped => droppedEvents field o.losesDescription dropped

/-- The event of taking the rule apart, if there is a colon in it. -/
def opening : List Event :=
  if ':' ∈ o.raw.toList then [.tokenized (Rule.ofText o.raw).name o.parameters] else []

/-- The event of a rule that has been applied. -/
def closing : List Event :=
  match o.dispatch with
  | .unknown => []
  | .applied effects _ => [.applied o.rule field effects.labels]

/-- All events of a rule. -/
def events : List Event := o.opening ++ o.mishaps field ++ o.closing field

/-- The events of a rule that a log tells. -/
def told : (verbosity : Nat) → List Event
  | 0 => []
  | 1 => o.mishaps field
  | _ + 2 => o.events field

end Outcome

/-! ## The events of a run -/

variable {templates : Templates} {setting : Setting} {field : String}

theorem Fate.events_eq (tell : RuleError → Event) (f : Fate) :
    f.events tell = f.error?.toList.map tell := by
  cases f <;> rfl

theorem tokenizedEvents_eq (raw : String) (dispatch : Dispatch) :
    tokenizedEvents raw = (Rule.outcome raw dispatch).opening := by
  unfold tokenizedEvents Outcome.opening
  simp only [List.contains_iff_mem]
  rfl

/-- A rule that has been applied loses its description just if an error dropped it. -/
theorem losesDescription_of_apply {k : Kind} {raw : String} {e : Entry} {s s' : Stream}
    {a : Application} (hname : Kind.ofName? (Rule.canonical raw).name = some k)
    (h : (k.apply templates setting field (Rule.canonical raw).parameters e).run s =
      .ok (a, s')) :
    (Rule.outcome raw (.applied a.effects a.dropped)).losesDescription =
      a.describing.error?.isSome := by
  have hdescription := (Kind.effects_of_apply h).1
  unfold Outcome.losesDescription Outcome.effects Dispatch.effects Rule.outcome
  rw [hname]
  -- the account is indexed by the error, and cases need a variable there
  generalize a.describing.error? = error? at hdescription
  cases hdescription with
  | undeclared hspec heffect hkept => simp [hspec]
  | done hspec hargs heffect hgrown => simp [heffect]
  | dropped hspec hargs heffect hkept => simp [hspec, heffect]

theorem droppedEvents_eq (description? example? : Option RuleError) :
    Outcome.droppedEvents field description?.isSome (description?.toList ++ example?.toList) =
      description?.toList.map (.droppedDescription · field) ++
        example?.toList.map (.droppedExample · field) := by
  cases description? <;> cases example? <;> rfl

/-- The log tells of a rule what its outcome has to tell. -/
theorem events_of_traceRule {raw : String} {e e' : Entry} {s s' : Stream} {o : Outcome}
    {events : List Event}
    (h : (traceRule templates setting field raw e).run s = .ok ((e', o, events), s')) :
    events = o.events field := by
  obtain ⟨result, s₁, hrule, hrest⟩ := Sampler.bind_eq_ok.mp h
  unfold applyRule at hrule
  dsimp only at hrule
  split at hrule
  · obtain ⟨rfl, rfl⟩ := Sampler.pure_eq_ok.mp hrule
    obtain ⟨heq, rfl⟩ := Sampler.pure_eq_ok.mp hrest
    cases heq
    rw [tokenizedEvents_eq raw .unknown]
    exact (List.append_nil _).symm
  · rename_i k hname
    obtain ⟨a, happly, rfl⟩ := Sampler.bind_pure_eq_ok.mp hrule
    obtain ⟨heq, rfl⟩ := Sampler.pure_eq_ok.mp hrest
    cases heq
    have hmishaps : (Rule.outcome raw (.applied a.effects a.dropped)).mishaps field =
        a.describing.events (.droppedDescription · field) ++
          a.exemplifying.events (.droppedExample · field) := by
      rw [Fate.events_eq, Fate.events_eq, ← droppedEvents_eq, ← Application.dropped_eq,
        ← losesDescription_of_apply hname happly]
      rfl
    rw [Application.events, ← hmishaps, tokenizedEvents_eq raw (.applied a.effects a.dropped)]
    exact (List.append_assoc _ _ _).symm

theorem events_of_traceRules {rules : List String} {e e' : Entry} {s s' : Stream}
    {outcomes : List Outcome} {events : List Event}
    (h : (traceRules templates setting field rules e).run s = .ok ((e', outcomes, events), s')) :
    events = outcomes.flatMap (Outcome.events field) := by
  induction rules generalizing e s outcomes events with
  | nil =>
    obtain ⟨heq, -⟩ := Sampler.pure_eq_ok.mp h
    cases heq
    rfl
  | cons raw raws ih =>
    obtain ⟨⟨e₁, o, events₁⟩, s₁, hrule, hrest⟩ := Sampler.bind_eq_ok.mp h
    obtain ⟨⟨e₂, outcomes₂, events₂⟩, hrules, heq⟩ := Sampler.bind_pure_eq_ok.mp hrest
    cases heq
    rw [List.flatMap_cons, ← ih hrules, ← events_of_traceRule hrule]

/-- A traced field has its own name and seed, an outcome for each of its rules, and the events of
its outcomes. -/
structure Aggregate.Traces (a : Aggregate) (field : String) (rules : List String) (seed : String) :
    Prop where
  field_eq : a.field = field
  seed_eq : a.seed = seed
  raw_eq : a.outcomes.map (·.raw) = rules
  events_eq : a.events = a.outcomes.flatMap (Outcome.events field)

theorem traces_of_aggregate {rules : List String} {seed : String} {a : Aggregate}
    (h : aggregate templates setting field rules seed = .ok a) : a.Traces field rules seed := by
  obtain ⟨s', hrun⟩ := Sampler.onSeed_eq_ok.mp h
  obtain ⟨⟨e, outcomes, events⟩, s, hrules, hrest⟩ := Sampler.bind_eq_ok.mp hrun
  obtain ⟨entry, -, rfl⟩ := Sampler.bind_pure_eq_ok.mp hrest
  exact ⟨rfl, rfl, (run_of_traceRules hrules).raw_eq, events_of_traceRules hrules⟩

/-! ## What is told at a level -/

namespace Outcome

variable {o : Outcome} {event : Event}

theorem level_of_mem_opening (h : event ∈ o.opening) : event.level = .trace := by
  unfold opening at h
  split at h
  · rw [List.mem_singleton.mp h]
    rfl
  · cases h

theorem level_of_mem_mishaps (h : event ∈ o.mishaps field) : event.level = .debug := by
  have hdropped (description : Bool) (error : RuleError) :
      (droppedEvent field description error).level = .debug := by
    cases description <;> rfl
  unfold mishaps at h
  split at h
  · rw [List.mem_singleton.mp h]
    rfl
  · rename_i dropped _
    cases dropped with
    | nil => cases h
    | cons error errors =>
      rcases List.mem_cons.mp h with rfl | hmem
      · exact hdropped _ error
      · obtain ⟨error', -, rfl⟩ := List.mem_map.mp hmem
        exact hdropped false error'

theorem level_of_mem_closing (h : event ∈ o.closing field) : event.level = .trace := by
  unfold closing at h
  split at h
  · cases h
  · rw [List.mem_singleton.mp h]
    rfl

open Console

/-- The events of an outcome that a log shows, by how it treats the two levels. -/
theorem filter_events (shown : Level → Bool) :
    (o.events field).filter (shown ·.level) =
      (if shown .trace then o.opening else []) ++ (if shown .debug then o.mishaps field else []) ++
        (if shown .trace then o.closing field else []) := by
  -- all events of a part have one level, so that the part is shown as a whole or not at all
  have hpart {level : Level} {events : List Event} (h : ∀ event ∈ events, event.level = level) :
      events.filter (shown ·.level) = if shown level then events else [] := by
    split
    · rename_i hshown
      exact List.filter_eq_self.mpr fun event hmem => by rw [h event hmem, hshown]
    · rename_i hhidden
      exact List.filter_eq_nil_iff.mpr fun event hmem => by rwa [h event hmem]
  rw [events, List.filter_append, List.filter_append, hpart fun _ => level_of_mem_opening,
    hpart fun _ => level_of_mem_mishaps, hpart fun _ => level_of_mem_closing]

theorem filter_shownAt (verbosity : Nat) :
    (o.events field).filter (·.level.shownAt verbosity) = o.told field verbosity := by
  rw [filter_events (Level.shownAt verbosity)]
  match verbosity with
  | 0 => rfl
  | 1 => exact List.append_nil _
  | _ + 2 => rfl

theorem filter_debug (verbosity : Nat) :
    (o.told field verbosity).filter (·.level == .debug) = o.told field (min verbosity 1) := by
  match verbosity with
  | 0 => rfl
  | 1 =>
    refine List.filter_eq_self.mpr fun event hmem => ?_
    rw [level_of_mem_mishaps hmem]
    rfl
  | verbosity + 2 =>
    rw [Nat.min_eq_right (by omega)]
    exact (filter_events (· == .debug)).trans (List.append_nil _)

end Outcome

/-! ## Lines -/

namespace Outcome

open Text

variable {o : Outcome}

theorem isLine_text_opening (hraw : IsLine o.raw) :
    ∀ event ∈ o.opening, IsLine event.text := by
  intro event hmem
  unfold opening at hmem
  split at hmem
  · rw [List.mem_singleton.mp hmem]
    unfold Event.text
    simp only [isLine_append]
    exact ⟨⟨⟨by decide, Rule.isLine_name_ofText hraw⟩, by decide⟩, isLine_quotedList _⟩
  · cases hmem

theorem isLine_text_mishaps
    (herrors : ∀ effects dropped, o.dispatch = .applied effects dropped →
      ∀ error ∈ dropped, IsLine error.message) :
    ∀ event ∈ o.mishaps field, IsLine event.text := by
  have hdropped (description : Bool) {error : RuleError} (herror : IsLine error.message) :
      IsLine (droppedEvent field description error).text := by
    have hline (head : String) (hhead : IsLine head) :
        IsLine (head ++ error.message ++ " field=" ++ quoted field) := by
      simp only [isLine_append]
      exact ⟨⟨⟨hhead, herror⟩, by decide⟩, isLine_quoted field⟩
    cases description with
    | false => exact hline "dropping example value err=" (by decide)
    | true => exact hline "dropping description err=" (by decide)
  intro event hmem
  unfold mishaps at hmem
  split at hmem
  · rw [List.mem_singleton.mp hmem]
    unfold Event.text
    simp only [isLine_append]
    exact ⟨⟨⟨by decide, isLine_quoted _⟩, by decide⟩, isLine_quoted _⟩
  · rename_i effects dropped hdispatch
    have hlines := herrors effects dropped hdispatch
    cases dropped with
    | nil => cases hmem
    | cons error errors =>
      rcases List.mem_cons.mp hmem with rfl | hlater
      · exact hdropped _ (hlines error List.mem_cons_self)
      · obtain ⟨error', herror', rfl⟩ := List.mem_map.mp hlater
        exact hdropped false (hlines error' (List.mem_cons_of_mem error herror'))

theorem isLine_text_closing : ∀ event ∈ o.closing field, IsLine event.text := by
  intro event hmem
  unfold closing at hmem
  split at hmem
  · cases hmem
  · rw [List.mem_singleton.mp hmem]
    unfold Event.text
    simp only [isLine_append]
    exact ⟨⟨⟨⟨⟨by decide, isLine_quoted _⟩, by decide⟩, isLine_quoted _⟩, by decide⟩,
      isLine_quotedList _⟩

end Outcome

/-- The events of a rule without line breaks are told in one line each. -/
theorem Step.isLine_text {raw : String} {e e' : Entry} {s s' : Stream} {o : Outcome}
    (h : Step templates setting field raw e s o e' s') (hraw : Text.IsLine raw) :
    ∀ event ∈ o.events field, Text.IsLine event.text := by
  have herrors : ∀ effects dropped, o.dispatch = .applied effects dropped →
      ∀ error ∈ dropped, Text.IsLine error.message := by
    intro effects dropped hdispatch
    cases h with
    | unknown hname => cases hdispatch
    | applied hname happly =>
      cases hdispatch
      exact lacks_message_of_apply (by decide) happly hraw
  have hopening : Text.IsLine o.raw := by rwa [h.raw_eq]
  intro event hmem
  rcases List.mem_append.mp hmem with hfront | hlast
  · rcases List.mem_append.mp hfront with hfirst | hmiddle
    · exact Outcome.isLine_text_opening hopening event hfirst
    · exact Outcome.isLine_text_mishaps herrors event hmiddle
  · exact Outcome.isLine_text_closing event hlast

theorem Run.isLine_text {rules : List String} {e e' : Entry} {s s' : Stream}
    {outcomes : List Outcome} (h : Run templates setting field rules e s outcomes e' s')
    (hraws : ∀ o ∈ outcomes, Text.IsLine o.raw) :
    ∀ o ∈ outcomes, ∀ event ∈ o.events field, Text.IsLine event.text := by
  induction h with
  | nil e s => exact fun o hmem => nomatch hmem
  | cons step rest ih =>
    obtain ⟨hraw, hrest⟩ := List.forall_mem_cons.mp hraws
    exact List.forall_mem_cons.mpr ⟨step.isLine_text (step.raw_eq ▸ hraw), ih hrest⟩

namespace Console

/-! ## The log of a request -/

/-- What a log of some verbosity has to tell of some fields. -/
def told (verbosity : Nat) (as : List Aggregate) : List String :=
  as.flatMap fun a => (a.outcomes.flatMap (Outcome.told a.field · verbosity)).map
    (logText a.field a.seed)

/-- What a log has to tell of some fields through a filter: the events of their outcomes that it
shows. -/
def shownBy (f : Filter) (as : List Aggregate) : List String :=
  as.flatMap fun a => ((a.outcomes.flatMap (Outcome.events a.field)).filter
    (f.shows a.field a.seed)).map (f.text a.field a.seed)

theorem logOf_eq {a : Aggregate} {field seed : String} {rules : List String}
    (h : a.Traces field rules seed) (f : Filter) :
    logOf f a = ((a.outcomes.flatMap (Outcome.events a.field)).filter
      (f.shows a.field a.seed)).map (f.text a.field a.seed) := by
  rw [logOf, h.events_eq, h.field_eq]

/-- A verbosity that shows an event shows the name of its field with it. -/
theorem Filter.text_ofVerbosity {verbosity : Nat} {field seed : String} {event : Event}
    (h : event.level.shownAt verbosity = true) :
    (ofVerbosity verbosity).text field seed event = logText field seed event := by
  refine if_pos ?_
  unfold Level.shownAt at h
  split at h
  · exact h
  · exact decide_eq_true (Nat.le_of_succ_le (of_decide_eq_true h))

theorem shownBy_ofVerbosity (verbosity : Nat) (as : List Aggregate) :
    shownBy (.ofVerbosity verbosity) as = told verbosity as := by
  refine List.flatMap_congr fun a _ => ?_
  calc ((a.outcomes.flatMap (Outcome.events a.field)).filter (·.level.shownAt verbosity)).map
          ((Filter.ofVerbosity verbosity).text a.field a.seed)
      = ((a.outcomes.flatMap (Outcome.events a.field)).filter (·.level.shownAt verbosity)).map
          (logText a.field a.seed) :=
        List.map_congr_left fun event hmem => Filter.text_ofVerbosity (List.mem_filter.mp hmem).2
    _ = (a.outcomes.flatMap (Outcome.told a.field · verbosity)).map (logText a.field a.seed) := by
        rw [List.filter_flatMap]
        exact congrArg (List.map _)
          (List.flatMap_congr fun o _ => Outcome.filter_shownAt verbosity)

/-- A text of the log that begins with a level. -/
def Level.heads (level : Level) (text : String) : Bool :=
  level.label.toList.isPrefixOf text.toList

theorem heads_debug_logText (field seed : String) (event : Event) :
    Level.debug.heads (logText field seed event) = (event.level == .debug) := by
  unfold Level.heads logText
  cases event.level with
  | debug => simp [Level.label]
  | trace =>
    simp only [Level.label, String.toList_append, List.append_assoc]
    rfl

/-- More verbosity adds nothing at the level that the first one shows. -/
theorem filter_told (verbosity : Nat) (as : List Aggregate) :
    (told verbosity as).filter Level.debug.heads = told (min verbosity 1) as := by
  unfold told
  rw [List.filter_flatMap]
  refine List.flatMap_congr fun a _ => ?_
  have hheads : Level.debug.heads ∘ logText a.field a.seed = (·.level == .debug) :=
    funext fun event => heads_debug_logText a.field a.seed event
  rw [List.filter_map, hheads, List.filter_flatMap]
  refine congrArg (List.map _) (List.flatMap_congr fun o _ => ?_)
  exact Outcome.filter_debug verbosity

theorem unlines_cons (text : String) (texts : List String) :
    unlines (text :: texts) = text ++ "\n" ++ unlines texts := by
  rw [unlines, List.map_cons, String.join_cons]
  rfl

/-- Texts of one line each are the lines of what is written of them. -/
theorem splitOn_unlines {texts : List String} (h : ∀ text ∈ texts, Text.IsLine text) :
    (unlines texts).toList.splitOn '\n' = texts.map String.toList ++ [[]] := by
  have hlines : (unlines texts).toList =
      ['\n'].intercalate (texts.map String.toList ++ [[]]) := by
    induction texts with
    | nil => rfl
    | cons text texts ih =>
      obtain ⟨line, lines, hrest⟩ := List.exists_cons_of_ne_nil
        (show texts.map String.toList ++ [[]] ≠ [] by simp)
      rw [unlines_cons, String.toList_append, String.toList_append,
        ih (List.forall_mem_cons.mp h).2, List.map_cons, List.cons_append, hrest,
        List.intercalate_cons_cons]
      rfl
  rw [hlines, List.splitOn_intercalate '\n' ?_ (by simp)]
  intro line hline
  rcases List.mem_append.mp hline with htext | hlast
  · obtain ⟨text, hmem, rfl⟩ := List.mem_map.mp htext
    exact h text hmem
  · rw [List.mem_singleton.mp hlast]
    exact List.not_mem_nil

/-! ## The log of a run -/

/-- A field that has been documented comes of an argument, which has been split into its name and
its rules. -/
def Request.FieldOf (r : Request) (environment : Option String) (argument : String)
    (a : Aggregate) : Prop :=
  ∃ field, SplitsInto argument field ∧ r.aggregateField environment field = .ok a

variable {r : Request} {environment : Option String} {as : List Aggregate}
  {arguments : List String}

theorem forall₂_comp {α β γ : Type} {R : α → β → Prop} {S : β → γ → Prop} {xs : List α}
    {ys : List β} {zs : List γ} (h : List.Forall₂ R xs ys) (h' : List.Forall₂ S ys zs) :
    List.Forall₂ (fun x z => ∃ y, R x y ∧ S y z) xs zs := by
  induction h generalizing zs with
  | nil =>
    cases h'
    exact .nil
  | cons hxy _ ih =>
    cases h' with
    | cons hyz hrest => exact .cons ⟨_, hxy, hyz⟩ (ih hrest)

theorem fieldOf_of_aggregates (hr : Request.ofArguments arguments = .ok r)
    (has : r.aggregates environment = .ok as) :
    List.Forall₂ (r.FieldOf environment) (fieldArguments false arguments) as :=
  forall₂_comp (fields_ofArguments hr).1 (mapM_eq_ok.mp has)

theorem Request.FieldOf.traces {argument : String} {a : Aggregate}
    (h : r.FieldOf environment argument a) : ∃ field, SplitsInto argument field ∧
      a.Traces field.1 (RuleText.piped field.2).rules (r.seedText environment) := by
  obtain ⟨field, hsplit, haggregate⟩ := h
  exact ⟨field, hsplit, traces_of_aggregate haggregate⟩

theorem flatMap_logOf (h : List.Forall₂ (r.FieldOf environment) arguments as) (f : Filter) :
    as.flatMap (logOf f) = shownBy f as := by
  unfold shownBy
  induction h with
  | nil => rfl
  | cons hfield _ ih =>
    obtain ⟨field, -, htraces⟩ := hfield.traces
    rw [List.flatMap_cons, List.flatMap_cons, ih, logOf_eq htraces]

theorem mem_of_mem_fieldArguments {expected : Bool} {argument : String}
    (h : argument ∈ fieldArguments expected arguments) : argument ∈ arguments := by
  induction arguments generalizing expected with
  | nil => cases expected <;> cases h
  | cons first rest ih =>
    rw [fieldArguments] at h
    split at h
    · exact List.mem_cons_of_mem first h
    · split at h
      · exact List.mem_cons_of_mem first (ih h)
      · split at h
        · exact List.mem_cons_of_mem first (ih h)
        · rcases List.mem_cons.mp h with rfl | hrest
          · exact List.mem_cons_self
          · exact List.mem_cons_of_mem first (ih hrest)

theorem Filter.isLine_text (f : Filter) (field seed : String) {event : Event}
    (h : Text.IsLine event.text) : Text.IsLine (f.text field seed event) := by
  have hlabel : Text.IsLine event.level.label := by
    cases event.level <;> decide
  unfold text logText
  split
  · simp only [Text.isLine_append]
    exact ⟨⟨⟨⟨⟨⟨hlabel, by decide⟩, Text.isLine_quoted field⟩, by decide⟩, Text.isLine_quoted seed⟩,
      by decide⟩, h⟩
  · simp only [Text.isLine_append]
    exact ⟨⟨hlabel, by decide⟩, h⟩

/-- An argument without line breaks has a log of one line for every event. -/
theorem Request.FieldOf.isLine {argument : String} {a : Aggregate}
    (h : r.FieldOf environment argument a) (hargument : Text.IsLine argument) (f : Filter) :
    ∀ text ∈ logOf f a, Text.IsLine text := by
  obtain ⟨field, hsplit, haggregate⟩ := h
  obtain ⟨e, s, s', hrun, -⟩ := aggregate_eq_ok haggregate
  have htraces := traces_of_aggregate haggregate
  have htext : Text.IsLine field.2 := Text.Lacks.of_subset hargument hsplit.subset.2
  have hraws : ∀ o ∈ a.outcomes, Text.IsLine o.raw := by
    intro o ho
    have hraw : o.raw ∈ (RuleText.piped field.2).rules :=
      htraces.raw_eq ▸ List.mem_map_of_mem ho
    exact Text.Lacks.of_subset htext (RuleText.subset_of_mem_piped hraw)
  intro text hmem
  obtain ⟨event, hevent, rfl⟩ := List.mem_map.mp hmem
  have htold := (List.mem_filter.mp hevent).1
  rw [htraces.events_eq] at htold
  obtain ⟨o, ho, howned⟩ := List.mem_flatMap.mp htold
  exact f.isLine_text _ _ (hrun.isLine_text hraws o ho event howned)

theorem isLine_of_mem_shownBy (h : List.Forall₂ (r.FieldOf environment) arguments as)
    (hlines : ∀ argument ∈ arguments, Text.IsLine argument) (f : Filter) :
    ∀ text ∈ shownBy f as, Text.IsLine text := by
  rw [← flatMap_logOf h]
  induction h with
  | nil => exact fun text hmem => nomatch hmem
  | cons hfield _ ih =>
    obtain ⟨hfirst, hrest⟩ := List.forall_mem_cons.mp hlines
    intro text hmem
    rw [List.flatMap_cons] at hmem
    rcases List.mem_append.mp hmem with hown | hlater
    · exact hfield.isLine hfirst f text hown
    · exact ih hrest text hlater

/-- The log of a run tells what its trace has to tell: of every field in the order of the arguments,
and of every outcome in the order of the rules, nothing, what went wrong, or all.  The level of what
went wrong shows the same however much else is told, every text of the log is one line if no argument
has a line break, and nothing but the log depends on the verbosity.  Where the environment gives a
filter for the log, the verbosity has no influence on that either: it tells what the filter shows of
the same events, in the same order. -/
theorem log_tells_trace (hr : Request.ofArguments arguments = .ok r)
    (has : r.aggregates environment = .ok as)
    (hlines : ∀ argument ∈ arguments, Text.IsLine argument) :
    (∀ more, Request.ofArguments (List.replicate more verboseOption ++ arguments) =
        .ok { r with verbosity := r.verbosity + more }) ∧
      List.Forall₂ (fun argument a => ∃ field, SplitsInto argument field ∧
          a.Traces field.1 (RuleText.piped field.2).rules (r.seedText environment))
        (fieldArguments false arguments) as ∧
      ∀ verbosity,
        Request.aggregates { r with verbosity := verbosity } environment = .ok as ∧
          (∀ terminal timed,
            Request.output { r with verbosity := verbosity } terminal timed =
              r.output terminal timed) ∧
          Request.log { r with verbosity := verbosity } as = told verbosity as ∧
          (told verbosity as).filter Level.debug.heads = told (min verbosity 1) as ∧
          (unlines (told verbosity as)).toList.splitOn '\n' =
            (told verbosity as).map String.toList ++ [[]] ∧
          ∀ f, Request.log { r with verbosity := verbosity } as (some f) = shownBy f as ∧
            (unlines (shownBy f as)).toList.splitOn '\n' =
              (shownBy f as).map String.toList ++ [[]] := by
  have hfields := fieldOf_of_aggregates hr has
  have hshown (f : Filter) : ∀ text ∈ shownBy f as, Text.IsLine text :=
    isLine_of_mem_shownBy hfields (fun argument hmem =>
      hlines argument (mem_of_mem_fieldArguments hmem)) f
  refine ⟨?_, hfields.imp fun _ _ => Request.FieldOf.traces, ?_⟩
  · intro more
    rw [ofArguments_replicate_append, hr]
    rfl
  · intro verbosity
    have htold := shownBy_ofVerbosity verbosity as
    refine ⟨has, fun _ _ => rfl, ?_, filter_told verbosity as, ?_, fun f => ?_⟩
    · exact (flatMap_logOf hfields (.ofVerbosity verbosity)).trans htold
    · exact splitOn_unlines (htold ▸ hshown (.ofVerbosity verbosity))
    · exact ⟨flatMap_logOf hfields f, splitOn_unlines (hshown f)⟩

/-- A name that comes twice, a rule of no kind, a number that cannot be read, and a rule that loses
both its description and its example and yet sets the type.  A filter that shows nothing silences the
log of the same run. -/
theorem log_tells_trace_mishaps :
    ∃ (r : Request) (as : List Aggregate),
      Request.ofArguments ["-v", "n=foo|digits:ten|accepted", "-s", "GET /",
          "n= Between:1|bool|accepted"] = .ok r ∧
        r.aggregates none = .ok as ∧ r.log as = told 1 as ∧
          as.flatMap (fun a => a.outcomes.flatMap (Outcome.told a.field · 1)) =
            [.unknownRule "foo" "n", .droppedExample (.invalidNumber "digits" "ten") "n",
              .droppedDescription (.missingParameter "between" 1) "n",
              .droppedExample (.missingParameter "between" 1) "n"] ∧
          r.log as (some ⟨fun _ _ _ => false, fun _ _ => false⟩) = [] := by
  obtain ⟨r, hr, hfields, hseed, hsetting, hverbosity⟩ : ∃ r,
      Request.ofArguments ["-v", "n=foo|digits:ten|accepted", "-s", "GET /",
          "n= Between:1|bool|accepted"] = .ok r ∧
        r.fields = [("n", "foo|digits:ten|accepted"), ("n", " Between:1|bool|accepted")] ∧
          r.seedText none = "GET /" ∧ r.setting = .fixed ∧ r.verbosity = 1 :=
    ⟨_, rfl, rfl, rfl, rfl, rfl⟩
  obtain ⟨as, has, hevents⟩ : ∃ as, r.aggregates none = .ok as ∧
      as.flatMap (fun a => a.outcomes.flatMap (Outcome.told a.field · 1)) =
        [.unknownRule "foo" "n", .droppedExample (.invalidNumber "digits" "ten") "n",
          .droppedDescription (.missingParameter "between" 1) "n",
          .droppedExample (.missingParameter "between" 1) "n"] := by
    unfold Request.aggregates Request.aggregateField
    rw [hfields, hseed, hsetting]
    exact ⟨_, rfl, rfl⟩
  obtain ⟨-, -, hlog⟩ := log_tells_trace hr has (by decide)
  have hsame : r = { r with verbosity := 1 } := by rw [← hverbosity]
  obtain ⟨-, -, htold, -, -, hfilter⟩ := hlog 1
  rw [← hsame] at htold
  refine ⟨r, as, hr, has, htold, hevents, ?_⟩
  rw [hsame, (hfilter _).1, shownBy]
  simp

end Console

end FieldGuide
