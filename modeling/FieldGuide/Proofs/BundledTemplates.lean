import FieldGuide.Proofs.Overrides
import FieldGuide.Proofs.Placeholders
set_option autoImplicit false

/-!
# The bundled templates and their arguments

The bundled template of a kind of rules has as many placeholders as the kind has arguments for its
description, whatever the parameters of the rule are.  So a fragment that comes of a bundled
template has no placeholder of the template left, and every argument stands in it as it is.
-/

namespace FieldGuide

/-! ## How many placeholders there are -/

namespace Template

/-- How many placeholders a text has: no other colon in it has a letter behind. -/
def placeholders : List Char → Nat
  | colon :: c :: cs =>
    (if colon = ':' ∧ c.isAlpha then 1 else 0) + placeholders (c :: cs)
  | _ => 0

theorem placeholders_cons {c : Char} {text : List Char} (hstart : ∀ q, ¬ Occurs (c :: text) 0 q) :
    placeholders (c :: text) = placeholders text := by
  cases text with
  | nil => rfl
  | cons d text =>
    rw [placeholders, if_neg, Nat.zero_add]
    intro ⟨hcolon, hd⟩
    subst hcolon
    refine hstart (nameFrom d text) ⟨isPlaceholder_nameFrom hd text, ?_⟩
    rw [List.drop_zero, ← nameFrom_append]
    exact List.prefix_append _ _

/-- In front of the first placeholder there is none. -/
theorem placeholders_append {front rest : List Char}
    (hleftmost : ∀ start q, Occurs (front ++ rest) start q → front.length ≤ start) :
    placeholders (front ++ rest) = placeholders rest := by
  induction front with
  | nil => rfl
  | cons c front ih =>
    have hstart (q : List Char) : ¬ Occurs (c :: (front ++ rest)) 0 q := by
      intro hq
      exact absurd (hleftmost 0 q hq) (Nat.not_succ_le_zero _)
    rw [List.cons_append, placeholders_cons hstart]
    refine ih (fun start q hq => ?_)
    exact Nat.le_of_succ_le_succ (hleftmost (start + 1) q hq)

theorem placeholders_of_not_occurs {text : List Char} (hnone : ∀ start q, ¬ Occurs text start q) :
    placeholders text = 0 := by
  have h := @placeholders_append text [] (fun start q hq => ?_)
  · rwa [List.append_nil] at h
  · rw [List.append_nil] at hq
    exact absurd hq (hnone start q)

/-- The name of a placeholder has no colon. -/
theorem placeholders_name {names rest : List Char} (hnames : ∀ c ∈ names, IsLetter c ∨ c = '_') :
    placeholders (names ++ rest) = placeholders rest := by
  induction names with
  | nil => rfl
  | cons c names ih =>
    obtain ⟨hc, hnames⟩ := List.forall_mem_cons.mp hnames
    have hstart (q : List Char) : ¬ Occurs (c :: (names ++ rest)) 0 q := by
      intro hq
      obtain ⟨⟨_, _, rfl, -⟩, hstarts⟩ := hq
      rw [List.drop_zero, List.cons_prefix_cons] at hstarts
      rw [← hstarts.1] at hc
      exact absurd hc (by unfold IsLetter; decide)
    rw [List.cons_append, placeholders_cons hstart, ih hnames]

theorem placeholders_placeholder {p rest : List Char} (hp : IsPlaceholder p) :
    placeholders (p ++ rest) = placeholders rest + 1 := by
  obtain ⟨first, names, rfl, hfirst, hnames⟩ := hp
  have hname : placeholders (first :: names ++ rest) = placeholders rest :=
    placeholders_name (List.forall_mem_cons.mpr ⟨.inl hfirst, hnames⟩)
  rw [List.cons_append, List.cons_append, placeholders, if_pos ⟨rfl, isAlpha_iff.mpr hfirst⟩,
    ← List.cons_append, hname, Nat.add_comm]

/-- A text is cut into as many pieces as it has placeholders. -/
theorem Segments.length_eq {text front : List Char} {pieces : List Piece}
    (h : Segments text front pieces) : pieces.length = placeholders text := by
  induction h with
  | plain hnone => exact (placeholders_of_not_occurs hnone).symm
  | @found text front p rest literal pieces htext hp hleftmost _ _ ih =>
    subst htext
    rw [List.append_assoc] at hleftmost ⊢
    rw [placeholders_append hleftmost, placeholders_placeholder hp, List.length_cons, ih]

/-! ## Filling without a rest -/

/-- The text results from a template by putting arguments in the place of its placeholders, one
after the other, as many as there are. -/
def FilledBy (template : String) (args : List String) (text : String) : Prop :=
  ∃ front pieces, Segments template.toList front pieces ∧ args.length = pieces.length ∧
    text.toList = front ++ (args.zip pieces).flatMap fun x => x.1.toList ++ x.2.literal

/-- With one argument for each placeholder, filling leaves no placeholder and no argument over. -/
theorem filledBy_fill {template : String} {args : List String}
    (hlength : args.length = placeholders template.toList) :
    FilledBy template args (fill template args) := by
  obtain ⟨front, pieces, hsegments, hfill⟩ := exists_segments template.toList
  have hcount : args.length = pieces.length := hlength.trans hsegments.length_eq.symm
  refine ⟨front, pieces, hsegments, hcount, ?_⟩
  have hrest : pieces.drop (args.map String.toList).length = [] := by
    rw [List.length_map, hcount, List.drop_length]
  rw [fill, String.toList_ofList, hfill, substituted, hrest, List.zip_map_left, List.flatMap_map]
  exact congrArg (front ++ ·) (List.append_nil _)

end Template

/-! ## How many arguments there are -/

theorem Attempt.pure_eq_done {α : Type} {a b : α} :
    (pure a : Attempt α).run = .ok (.ok b) ↔ a = b := by
  rw [ExceptT.run_pure]
  simp [pure, Except.pure]

/-- How many arguments a description has. -/
def Describing.arity : Describing → Nat
  | bare => 0
  | first | anyOf | allOf | conditions | bound => 1
  | pair | tableAndColumn => 2

/-- Where the arguments of a description can be formed, their number is fixed. -/
theorem Describing.length_of_arguments {d : Describing} {i : Input} {args : List String}
    (h : (d.arguments i).run = .ok (.ok args)) : args.length = d.arity := by
  cases d with
  | bare => rw [← Attempt.pure_eq_done.mp h, arity, List.length_nil]
  | first | anyOf | allOf | conditions =>
    obtain ⟨_, -, hargs⟩ := Attempt.bind_eq_done.mp h
    rw [← Attempt.pure_eq_done.mp hargs, arity, List.length_singleton]
  | pair =>
    obtain ⟨_, -, h⟩ := Attempt.bind_eq_done.mp h
    obtain ⟨_, -, hargs⟩ := Attempt.bind_eq_done.mp h
    rw [← Attempt.pure_eq_done.mp hargs]
    rfl
  | bound =>
    obtain ⟨_, -, h⟩ := Attempt.bind_eq_done.mp h
    obtain ⟨_, -, h⟩ := Attempt.bind_eq_done.mp h
    obtain ⟨_, -, hargs⟩ := Attempt.bind_eq_done.mp h
    rw [← Attempt.pure_eq_done.mp hargs, arity, List.length_singleton]
  | tableAndColumn =>
    obtain ⟨_, -, hargs⟩ := Attempt.bind_eq_done.mp h
    rw [← Attempt.pure_eq_done.mp hargs]
    rfl

/-- Just the kinds that describe have a bundled template, with a placeholder for each of their
arguments. -/
theorem Kind.placeholders_template? (k : Kind) :
    k.template?.map (fun template => Template.placeholders template.toList) =
      k.spec.describing.map Describing.arity := by
  cases k <;> decide +kernel

theorem Kind.exists_template? {k : Kind} {d : Describing} (hspec : k.spec.describing = some d) :
    ∃ template, k.template? = some template ∧
      Template.placeholders template.toList = d.arity := by
  have hcount := k.placeholders_template?
  rw [hspec, Option.map_some] at hcount
  exact Option.map_eq_some_iff.mp hcount

/-! ## Fragments -/

variable {setting : Setting} {field : String}

variable (setting field) in
/-- The fragment is the bundled template of the rule of an outcome, filled with the arguments of its
description. -/
def Outcome.FillsBundled (o : Outcome) (fragment : String) : Prop :=
  ∃ k d template args, Kind.ofName? o.rule = some k ∧ k.spec.describing = some d ∧
    k.template? = some template ∧
    (∀ type, (d.arguments (k.input setting field o.parameters type)).run = .ok (.ok args)) ∧
    Template.FilledBy template args fragment

theorem Outcome.HasFragment.fillsBundled {o : Outcome} {fragment : String}
    (h : o.HasFragment Catalogue.bundled.template setting field fragment) :
    o.FillsBundled setting field fragment := by
  obtain ⟨k, d, args, hname, hspec, hargs, rfl⟩ := h
  obtain ⟨template, htemplate, hcount⟩ := Kind.exists_template? hspec
  have htext : Catalogue.bundled.template o.rule = template := by
    rw [← Kind.name_of_ofName? hname]
    exact Catalogue.bundledText_of_template? htemplate
  refine ⟨k, d, template, args, hname, hspec, htemplate, hargs, ?_⟩
  rw [htext]
  exact Template.filledBy_fill ((Describing.length_of_arguments (hargs none)).trans hcount.symm)

/-- Every fragment that comes of the bundled templates is the template of its rule with an argument,
as it is, in the place of each placeholder and no argument left over; for a rule that describes has
as many arguments as its template has placeholders, whatever it reads. -/
theorem fragments_fill_bundled (setting : Setting) (field : String) (rules : List String)
    (seed : String) :
    (∀ a, aggregate Catalogue.bundled.template setting field rules seed = .ok a →
        List.Forall₂ (Outcome.FillsBundled setting field)
          (a.outcomes.filter (·.effects.describes)) a.entry.description) ∧
      ∀ (k : Kind) (d : Describing), k.spec.describing = some d →
        ∃ template front pieces, k.template? = some template ∧
          Template.Segments template.toList front pieces ∧
          ∀ i args, (d.arguments i).run = .ok (.ok args) → args.length = pieces.length := by
  constructor
  · intro a ha
    exact (described_of_aggregate ha).imp fun _ _ h => h.fillsBundled
  · intro k d hspec
    obtain ⟨template, htemplate, hcount⟩ := Kind.exists_template? hspec
    obtain ⟨front, pieces, hsegments, -⟩ := Template.exists_segments template.toList
    refine ⟨template, front, pieces, htemplate, hsegments, ?_⟩
    intro i args hargs
    rw [Describing.length_of_arguments hargs, hsegments.length_eq, hcount]

/-- Arguments that look like placeholders, one of which stands behind the place of the other, and
the name of the field as an argument. -/
theorem fragments_fill_bundled_alike :
    ∃ a, aggregate Catalogue.bundled.template .fixed "user_id"
          ["accepted", "between::max,:min", "exists:users", "required_if::values,b"] "s" = .ok a ∧
      List.Forall₂ (Outcome.FillsBundled .fixed "user_id")
        (a.outcomes.filter (·.effects.describes)) a.entry.description ∧
      a.entry.description.length = 3 ∧ Kind.between.spec.describing = some .pair ∧
      ∃ template front pieces, Kind.between.template? = some template ∧
        Template.Segments template.toList front pieces ∧
        (Describing.pair.arguments
            (Kind.between.input .fixed "user_id" [":max", ":min"] none)).run =
          .ok (.ok [":max", ":min"]) ∧
        [":max", ":min"].length = pieces.length := by
  obtain ⟨hfragments, harity⟩ := fragments_fill_bundled .fixed "user_id"
    ["accepted", "between::max,:min", "exists:users", "required_if::values,b"] "s"
  obtain ⟨template, front, pieces, htemplate, hsegments, hcount⟩ := harity .between .pair rfl
  have hargs : (Describing.pair.arguments
      (Kind.between.input .fixed "user_id" [":max", ":min"] none)).run =
        .ok (.ok [":max", ":min"]) := rfl
  exact ⟨_, rfl, hfragments _ rfl, rfl, rfl, template, front, pieces, htemplate, hsegments, hargs,
    hcount _ _ hargs⟩

end FieldGuide
