import FieldGuide.Document
import FieldGuide.Console.Session
import FieldGuide.Proofs.Runs
import FieldGuide.Proofs.Supplying
import FieldGuide.Proofs.FieldArguments
set_option autoImplicit false

/-!
# One document, however it is built

The fields of an endpoint can be documented in order, in tasks of their own, or by the command line,
which inserts them one by one and keeps their traces.  The document is the same: each name stands
where it comes first, with the entry of its last field, as this field is documented alone.
-/

namespace FieldGuide

variable {templates : Templates} {setting : Setting} {seed : String}
  {fields : List (String × RuleText)}

/-! ## Fields and their entries -/

/-- A field is documented under its name with the entry that it has alone. -/
theorem documentField_eq_ok {field : String × RuleText} {pair : String × Entry} :
    documentField templates setting seed field = .ok pair ↔
      pair.1 = field.1 ∧
        aggregateEntry templates setting field.1 field.2.rules seed = .ok pair.2 := by
  obtain ⟨name, e⟩ := pair
  unfold documentField
  rcases aggregateEntry templates setting field.1 field.2.rules seed with cause | e'
  · simp [bind, Except.bind]
  · simp [bind, Except.bind, pure, Except.pure, eq_comm]

theorem document_eq_ok {p : Parameters} :
    document templates setting seed fields = .ok p ↔
      ∃ pairs, List.Forall₂
          (fun field pair => documentField templates setting seed field = .ok pair) fields pairs ∧
        p = Parameters.ofList pairs := by
  simp only [← mapM_eq_ok]
  unfold document
  rcases fields.mapM (documentField templates setting seed) with cause | pairs
  · simp [bind, Except.bind]
  · simp [bind, Except.bind, pure, Except.pure, eq_comm]

/-- Tasks of their own do not change what fields are documented as. -/
theorem documentInParallel_eq :
    documentInParallel templates setting seed fields = document templates setting seed fields := by
  unfold documentInParallel document
  dsimp only
  rw [List.mapM_map]
  rfl

theorem field_of_aggregate {field : String} {rules : List String} {a : Aggregate}
    (h : aggregate templates setting field rules seed = .ok a) : a.field = field := by
  obtain ⟨s', hrun⟩ := Sampler.onSeed_eq_ok.mp h
  obtain ⟨⟨e, outcomes, events⟩, s, -, hrest⟩ := Sampler.bind_eq_ok.mp hrun
  obtain ⟨entry, -, rfl⟩ := Sampler.bind_pure_eq_ok.mp hrest
  rfl

/-! ## The entries of a document -/

/-- Parameters are what fields are documented as: the names of the fields, each where it comes
first, with the entry that the last field of the name has alone. -/
structure Parameters.Documents (p : Parameters) (templates : Templates) (setting : Setting)
    (seed : String) (fields : List (String × RuleText)) : Prop where
  names : p.names = (fields.map (·.1)).eraseDups
  entry : ∀ before name rules after, fields = before ++ (name, rules) :: after →
    (∀ field ∈ after, field.1 ≠ name) →
      ∃ e, aggregateEntry templates setting name rules.rules seed = .ok e ∧ p.get? name = some e

theorem map_fst_of_documented {pairs : List (String × Entry)}
    (h : List.Forall₂ (fun field pair => documentField templates setting seed field = .ok pair)
      fields pairs) : pairs.map (·.1) = fields.map (·.1) := by
  induction h with
  | nil => rfl
  | cons hpair _ ih => rw [List.map_cons, List.map_cons, ih, (documentField_eq_ok.mp hpair).1]

/-- What stands at the place of one field, and behind it. -/
theorem forall₂_append_cons {α β : Type} {R : α → β → Prop} {before after : List α} {x : α}
    {ys : List β} (h : List.Forall₂ R (before ++ x :: after) ys) :
    ∃ front y back, ys = front ++ y :: back ∧ R x y ∧ List.Forall₂ R after back := by
  induction before generalizing ys with
  | nil =>
    obtain ⟨y, back, hxy, hback, rfl⟩ := List.forall₂_cons_left_iff.mp h
    exact ⟨[], y, back, rfl, hxy, hback⟩
  | cons x' before ih =>
    obtain ⟨y', ys', -, hys', rfl⟩ := List.forall₂_cons_left_iff.mp h
    obtain ⟨front, y, back, rfl, hxy, hback⟩ := ih hys'
    exact ⟨y' :: front, y, back, rfl, hxy, hback⟩

theorem documents_of_document {p : Parameters}
    (h : document templates setting seed fields = .ok p) :
    p.Documents templates setting seed fields := by
  obtain ⟨pairs, hpairs, rfl⟩ := document_eq_ok.mp h
  refine ⟨?_, ?_⟩
  · rw [Parameters.names_ofList, map_fst_of_documented hpairs]
  · rintro before name rules after rfl hafter
    obtain ⟨front, ⟨name', e⟩, back, rfl, hpair, hback⟩ := forall₂_append_cons hpairs
    obtain ⟨rfl, hentry⟩ := documentField_eq_ok.mp hpair
    refine ⟨e, hentry, ?_⟩
    rw [Parameters.get?_ofList, lookup_reverse_eq_some]
    refine ⟨front, back, rfl, ?_⟩
    intro pair hmem heq
    have hname : pair.1 ∈ after.map (·.1) := by
      rw [← map_fst_of_documented hback]
      exact List.mem_map_of_mem hmem
    obtain ⟨field, hfield, hfst⟩ := List.mem_map.mp hname
    exact hafter field hfield (hfst.trans heq)

theorem exists_forall₂_iff {α β : Type} {R : α → β → Prop} {xs : List α} :
    (∃ ys, List.Forall₂ R xs ys) ↔ ∀ x ∈ xs, ∃ y, R x y := by
  constructor
  · rintro ⟨ys, h⟩ x hmem
    obtain ⟨before, after, rfl⟩ := List.append_of_mem hmem
    obtain ⟨-, y, -, -, hxy, -⟩ := forall₂_append_cons h
    exact ⟨y, hxy⟩
  · intro h
    induction xs with
    | nil => exact ⟨[], .nil⟩
    | cons x xs ih =>
      obtain ⟨y, hxy⟩ := h x List.mem_cons_self
      obtain ⟨ys, hys⟩ := ih fun x' hmem => h x' (List.mem_cons_of_mem x hmem)
      exact ⟨y :: ys, .cons hxy hys⟩

/-- Fields can be documented just if each of them can be alone. -/
theorem document_isOk_iff :
    (∃ p, document templates setting seed fields = .ok p) ↔
      ∀ field ∈ fields,
        ∃ e, aggregateEntry templates setting field.1 field.2.rules seed = .ok e := by
  have halone (field : String × RuleText) :
      (∃ pair, documentField templates setting seed field = .ok pair) ↔
        ∃ e, aggregateEntry templates setting field.1 field.2.rules seed = .ok e := by
    constructor
    · rintro ⟨pair, hpair⟩
      exact ⟨pair.2, (documentField_eq_ok.mp hpair).2⟩
    · rintro ⟨e, he⟩
      exact ⟨(field.1, e), documentField_eq_ok.mpr ⟨rfl, he⟩⟩
  have hall : (∃ p, document templates setting seed fields = .ok p) ↔ ∃ pairs,
      List.Forall₂ (fun field pair => documentField templates setting seed field = .ok pair)
        fields pairs := by
    constructor
    · rintro ⟨p, hp⟩
      obtain ⟨pairs, hpairs, -⟩ := document_eq_ok.mp hp
      exact ⟨pairs, hpairs⟩
    · rintro ⟨pairs, hpairs⟩
      exact ⟨_, document_eq_ok.mpr ⟨pairs, hpairs, rfl⟩⟩
  rw [hall, exists_forall₂_iff]
  exact forall₂_congr fun field _ => halone field

/-! ## The command line -/

namespace Console

theorem parametersOf_eq (as : List Aggregate) :
    parametersOf as = Parameters.ofList (as.map fun a => (a.field, a.entry)) := by
  rw [parametersOf, Parameters.ofList, List.foldl_map]

/-- A request documents its fields as the library does. -/
theorem Request.document_eq {r : Request} {environment : Option String} {as : List Aggregate}
    (h : r.aggregates environment = .ok as) :
    document Catalogue.bundled.template r.setting (r.seedText environment)
      (r.fields.map fun field => (field.1, .piped field.2)) = .ok (parametersOf as) := by
  refine document_eq_ok.mpr ⟨_, ?_, parametersOf_eq as⟩
  rw [List.forall₂_map_left_iff, List.forall₂_map_right_iff]
  refine (mapM_eq_ok.mp h).imp ?_
  intro field a ha
  refine documentField_eq_ok.mpr ⟨field_of_aggregate ha, ?_⟩
  rw [aggregateEntry_eq, show aggregate _ _ _ _ _ = _ from ha]
  rfl

end Console

/-- The document of some fields is one, whether they are documented in order, in tasks of their own,
or by the command line, which prints it whatever else it has been asked for. -/
theorem document_alike (templates : Templates) (setting : Setting) (seed : String)
    (fields : List (String × RuleText)) :
    documentInParallel templates setting seed fields = document templates setting seed fields ∧
      ((∃ p, document templates setting seed fields = .ok p) ↔ ∀ field ∈ fields,
        ∃ e, aggregateEntry templates setting field.1 field.2.rules seed = .ok e) ∧
      (∀ p, document templates setting seed fields = .ok p →
        p.Documents templates setting seed fields) ∧
      ∀ arguments environment r timed, Console.Request.ofArguments arguments = .ok r →
        Console.asksForJson arguments = true →
          r.aggregates environment = .ok (timed.map (·.1)) →
            List.Forall₂ Console.SplitsInto (Console.fieldArguments false arguments) r.fields ∧
              ∃ p, document Catalogue.bundled.template r.setting (r.seedText environment)
                    (r.fields.map fun field => (field.1, .piped field.2)) = .ok p ∧
                  ∀ terminal, r.output terminal timed = p.toJson.write .pretty ++ "\n" := by
  refine ⟨documentInParallel_eq, document_isOk_iff, fun p => documents_of_document, ?_⟩
  intro arguments environment r timed hr hjson haggregates
  obtain ⟨hfields, hasked⟩ := Console.fields_ofArguments hr
  refine ⟨hfields, _, Console.Request.document_eq haggregates, fun terminal => ?_⟩
  rw [Console.Request.output, hasked, hjson, if_pos rfl]

/-- A name that comes twice, the first time with a space before it, and an equals sign in a rule. -/
theorem document_alike_repeated :
    ∃ (r : Console.Request) (timed : List (Aggregate × String)) (p : Parameters),
      Console.Request.ofArguments ["-vs", "GET /", " ok=size:5|bool", "--json", "--color",
          "n=accepted|note:a=b", "--", "ok=accepted"] = .ok r ∧
        r.aggregates none = .ok (timed.map (·.1)) ∧
          r.output true timed = p.toJson.write .pretty ++ "\n" ∧ p.names = ["ok", "n"] ∧
            ∃ e, aggregateEntry Catalogue.bundled.template .fixed "ok" ["accepted"] "GET /" =
                .ok e ∧ p.get? "ok" = some e := by
  obtain ⟨r, hr, hfields, hseed, hsetting⟩ : ∃ r,
      Console.Request.ofArguments ["-vs", "GET /", " ok=size:5|bool", "--json", "--color",
          "n=accepted|note:a=b", "--", "ok=accepted"] = .ok r ∧
        r.fields = [("ok", "size:5|bool"), ("n", "accepted|note:a=b"), ("ok", "accepted")] ∧
          r.seedText none = "GET /" ∧ r.setting = .fixed := ⟨_, rfl, rfl, rfl, rfl⟩
  obtain ⟨as, has⟩ : ∃ as, r.aggregates none = .ok as := by
    unfold Console.Request.aggregates Console.Request.aggregateField
    rw [hfields, hseed, hsetting]
    exact ⟨_, rfl⟩
  have htimed : r.aggregates none = .ok ((as.map fun a => (a, "1ms")).map (·.1)) := by
    simpa [Function.comp_def] using has
  obtain ⟨-, -, hdocuments, hconsole⟩ := document_alike Catalogue.bundled.template .fixed "GET /"
    [("ok", .piped "size:5|bool"), ("n", .piped "accepted|note:a=b"), ("ok", .piped "accepted")]
  obtain ⟨-, p, hp, houtput⟩ := hconsole _ none r _ hr (by decide) htimed
  rw [hfields, hseed, hsetting] at hp
  obtain ⟨hnames, hentry⟩ := hdocuments p hp
  obtain ⟨e, he, hget⟩ := hentry
    [("ok", .piped "size:5|bool"), ("n", .piped "accepted|note:a=b")] "ok" (.piped "accepted") []
    rfl nofun
  exact ⟨r, _, p, hr, htimed, houtput true, hnames, e, he, hget⟩

end FieldGuide
