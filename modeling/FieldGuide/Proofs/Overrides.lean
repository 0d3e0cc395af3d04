import FieldGuide.Proofs.Counterparts
import FieldGuide.Proofs.Supplying
set_option autoImplicit false

/-!
# What templates influence

Two catalogues of templates, each with any number of templates supplied in any order, give the same
record and the same trace of a field.  Its fragments are as many, and those of a rule differ only
where the catalogues have different texts for its name.
-/

namespace FieldGuide

namespace Catalogue

/-! ## The text for a name -/

/-- The text that a catalogue has for a name when some templates have been supplied in order. -/
inductive Resolves (supplied : List (String × String)) (name : String) : String → Prop where
  /-- the last template that was supplied for the name -/
  | supplied {before after : List (String × String)} {text : String}
      (hsplit : supplied = before ++ (name, text) :: after)
      (hlast : ∀ pair ∈ after, pair.1 ≠ name) : Resolves supplied name text
  /-- the bundled template -/
  | bundled {k : Kind} {text : String} (hnone : ∀ pair ∈ supplied, pair.1 ≠ name)
      (hname : k.name = name) (htext : k.template? = some text) : Resolves supplied name text
  /-- the name, where no template is known for it -/
  | unknown (hnone : ∀ pair ∈ supplied, pair.1 ≠ name)
      (hunknown : ∀ k : Kind, k.name = name → k.template? = none) : Resolves supplied name name

theorem overrides_withTemplates (c : Catalogue) (supplied : List (String × String)) :
    (c.withTemplates supplied).overrides = supplied.reverse ++ c.overrides := by
  induction supplied generalizing c with
  | nil => rfl
  | cons pair supplied ih =>
    have hstep : c.withTemplates (pair :: supplied) =
        (c.withTemplate pair.1 pair.2).withTemplates supplied := rfl
    rw [hstep, ih, List.reverse_cons, List.append_assoc]
    rfl

theorem bundledText_of_template? {k : Kind} {text : String} (h : k.template? = some text) :
    bundledText k.name = text := by
  rw [bundledText, k.ofName?_name, Option.bind_some, h]
  rfl

theorem bundledText_of_unknown {name : String}
    (h : ∀ k : Kind, k.name = name → k.template? = none) : bundledText name = name := by
  unfold bundledText
  cases hname : Kind.ofName? name with
  | none => rfl
  | some k => rw [Option.bind_some, h k (Kind.name_of_ofName? hname)]; rfl

theorem template_withTemplates (supplied : List (String × String)) (name : String) :
    (Catalogue.bundled.withTemplates supplied).template name =
      (supplied.reverse.lookup name).getD (bundledText name) := by
  rw [template, overrides_withTemplates]
  exact congrArg (fun pairs => (pairs.lookup name).getD (bundledText name)) (List.append_nil _)

/-- The text that a catalogue has for a name is the one that resolves it. -/
theorem template_eq_iff {supplied : List (String × String)} {name text : String} :
    (Catalogue.bundled.withTemplates supplied).template name = text ↔
      Resolves supplied name text := by
  rw [template_withTemplates]
  constructor
  · rintro rfl
    cases hlookup : supplied.reverse.lookup name with
    | some text =>
      obtain ⟨before, after, hsplit, hlast⟩ := lookup_reverse_eq_some.mp hlookup
      exact .supplied hsplit hlast
    | none =>
      have hnone := lookup_reverse_eq_none.mp hlookup
      by_cases hknown : ∃ k : Kind, k.name = name ∧ k.template? ≠ none
      · obtain ⟨k, rfl, htext⟩ := hknown
        obtain ⟨text, htext⟩ := Option.ne_none_iff_exists'.mp htext
        rw [Option.getD_none, bundledText_of_template? htext]
        exact .bundled hnone rfl htext
      · have hunknown : ∀ k : Kind, k.name = name → k.template? = none := by
          intro k hname
          by_contra htext
          exact hknown ⟨k, hname, htext⟩
        rw [Option.getD_none, bundledText_of_unknown hunknown]
        exact .unknown hnone hunknown
  · intro h
    cases h with
    | supplied hsplit hlast =>
      rw [lookup_reverse_eq_some.mpr ⟨_, _, hsplit, hlast⟩]
      rfl
    | bundled hnone hname htext =>
      rw [lookup_reverse_eq_none.mpr hnone, ← hname]
      exact bundledText_of_template? htext
    | unknown hnone hunknown =>
      rw [lookup_reverse_eq_none.mpr hnone]
      exact bundledText_of_unknown hunknown

end Catalogue

/-! ## Two catalogues -/

variable {setting : Setting} {field : String} {rules : List String} {seed : String} {a : Aggregate}

/-- Templates influence their own fragments and nothing else; which text a catalogue has for a name
is said by `Catalogue.Resolves`. -/
theorem aggregate_other_templates {supplied : List (String × String)}
    (h : aggregate (Catalogue.bundled.withTemplates supplied).template setting field rules seed =
      .ok a) (supplied' : List (String × String)) :
    (∃ b,
      aggregate (Catalogue.bundled.withTemplates supplied').template setting field rules seed =
          .ok b ∧
        a.InStep b ∧ b.entry.value = a.entry.value ∧
          a.SharesFragments (fun o => ∃ text, Catalogue.Resolves supplied o.rule text ∧
            Catalogue.Resolves supplied' o.rule text) b) ∧
      ∀ name text, (Catalogue.bundled.withTemplates supplied).template name = text ↔
        Catalogue.Resolves supplied name text := by
  refine ⟨?_, fun name text => Catalogue.template_eq_iff⟩
  obtain ⟨b, hb, hinStep, hvalue⟩ := aggregate_counterpart
    (Catalogue.bundled.withTemplates supplied').template field h (.inl rfl)
  refine ⟨b, hb, hinStep, hvalue fun _ _ _ => .inl rfl, ?_⟩
  refine sharesFragments_of_described (described_of_aggregate h) (described_of_aggregate hb)
    hinStep ?_
  rintro o ho ⟨text, htext, htext'⟩ fragment fragment' hfragment hfragment'
  refine hfragment.eq_of hfragment' ?_ (fun _ => .inl rfl) (fun _ => .inl rfl)
  rw [Catalogue.template_eq_iff.mpr htext, Catalogue.template_eq_iff.mpr htext']

/-- Both catalogues have one text for the lower bound, which the first one has replaced before, and
the template of the second one for `Size` is not one for `size`. -/
theorem aggregate_other_templates_replaced :
    ∃ a b,
      aggregate (Catalogue.bundled.withTemplates
            [("min", "from :n"), ("size", ":n"), ("min", "at least :n")]).template .fixed "f"
          ["bool", " MIN :1", "between:1", "size:2", "alpha_dash"] "s" = .ok a ∧
        aggregate (Catalogue.bundled.withTemplates
              [("min", "at least :n"), ("Size", "of :n")]).template .fixed "f"
            ["bool", " MIN :1", "between:1", "size:2", "alpha_dash"] "s" = .ok b ∧
          a.InStep b ∧ b.entry.value = a.entry.value ∧ a.entry.description.length = 3 ∧
            b.entry.description.length = 3 ∧
              b.entry.description[0]? = a.entry.description[0]? := by
  obtain ⟨a, ha, o, p, q, hdescribing, hrule⟩ : ∃ a,
      aggregate (Catalogue.bundled.withTemplates
            [("min", "from :n"), ("size", ":n"), ("min", "at least :n")]).template .fixed "f"
          ["bool", " MIN :1", "between:1", "size:2", "alpha_dash"] "s" = .ok a ∧
        ∃ o p q, a.describing = [o, p, q] ∧ o.rule = "min" := ⟨_, rfl, _, _, _, rfl, rfl⟩
  obtain ⟨b, hb, hinStep, hvalue, hshares⟩ :=
    (aggregate_other_templates ha [("min", "at least :n"), ("Size", "of :n")]).1
  have hlength := hshares.length
  have hlength' := hshares.length_other
  rw [hdescribing] at hlength hlength'
  refine ⟨a, b, ha, hb, hinStep, hvalue, hlength, hlength', ?_⟩
  refine hshares.fragment 0 o (by rw [hdescribing]; rfl) ⟨"at least :n", ?_, ?_⟩
  · rw [hrule]
    exact @Catalogue.Resolves.supplied _ _ [("min", "from :n"), ("size", ":n")] [] _ rfl (by simp)
  · rw [hrule]
    exact @Catalogue.Resolves.supplied _ _ [] [("Size", "of :n")] _ rfl (by simp)

end FieldGuide
