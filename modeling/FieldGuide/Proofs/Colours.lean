import FieldGuide.Console.EscapeSequence
import FieldGuide.Proofs.ColourOptions
import FieldGuide.Proofs.ShownTexts
set_option autoImplicit false

/-!
# Colours decorate

Colours are asked for by arguments of their own, which change nothing else in a request.  In its
report they put escape sequences around parts of the text, and where these are removed the report
without colours is left: every piece of a line is decorated, and so are lines and reports that are
put together of them.
-/

namespace FieldGuide.Console

open Text

/-! ## Removing styles -/

/-- What is behind the rest of a sequence that switches a style: a bracket, figures and an `m`. -/
def behindStyle? : List Char → Option (List Char)
  | '[' :: cs =>
    match cs.takeWhile Char.isDigit, cs.dropWhile Char.isDigit with
    | _ :: _, 'm' :: rest => some rest
    | _, _ => none
  | _ => none

theorem length_behindStyle? {cs rest : List Char} (h : behindStyle? cs = some rest) :
    rest.length < cs.length := by
  unfold behindStyle? at h
  split at h
  · rename_i cs
    split at h
    · rename_i hback
      cases h
      have hsublist := (List.dropWhile_sublist (l := cs) Char.isDigit).length_le
      rw [hback, List.length_cons] at hsublist
      rw [List.length_cons]
      omega
    · cases h
  · cases h

/-- A text without the sequences that switch styles. -/
def removeStyles : List Char → List Char
  | [] => []
  | c :: cs =>
    if c = escapeChar then
      match h : behindStyle? cs with
      | some rest =>
        have := length_behindStyle? h
        removeStyles rest
      | none => c :: removeStyles cs
    else c :: removeStyles cs
termination_by cs => cs.length

theorem removeStyles_cons_of_ne {c : Char} (hc : c ≠ escapeChar) (cs : List Char) :
    removeStyles (c :: cs) = c :: removeStyles cs := by
  rw [removeStyles, if_neg hc]

theorem removeStyles_of_behindStyle? {cs rest : List Char} (h : behindStyle? cs = some rest) :
    removeStyles (escapeChar :: cs) = removeStyles rest := by
  rw [removeStyles, if_pos rfl]
  split
  · rename_i hrest
    cases h.symm.trans hrest
    rfl
  · rename_i hnone
    cases h.symm.trans hnone

theorem removeStyles_append_of_notMem {cs : List Char} (h : escapeChar ∉ cs) (rest : List Char) :
    removeStyles (cs ++ rest) = cs ++ removeStyles rest := by
  induction cs with
  | nil => rfl
  | cons c cs ih =>
    rw [List.mem_cons, not_or] at h
    rw [List.cons_append, removeStyles_cons_of_ne (Ne.symm h.1), ih h.2, List.cons_append]

/-- The code of a style is a number in figures. -/
def IsCode (code : String) : Prop := code.toList ≠ [] ∧ ∀ c ∈ code.toList, c.isDigit = true

instance (code : String) : Decidable (IsCode code) :=
  @instDecidableAnd _ _ _ (List.decidableBAll (·.isDigit = true) code.toList)

theorem removeStyles_style_append {code : String} (hcode : IsCode code) (rest : List Char) :
    removeStyles ((Palette.style code).toList ++ rest) = removeStyles rest := by
  obtain ⟨hne, hfigures⟩ := hcode
  obtain ⟨first, figures, hcons⟩ := List.exists_cons_of_ne_nil hne
  have hstyle : (Palette.style code).toList ++ rest =
      escapeChar :: '[' :: (code.toList ++ 'm' :: rest) := by
    rw [Palette.style, String.toList_append, String.toList_append, List.append_assoc,
      List.append_assoc]
    rfl
  have hbehind : behindStyle? ('[' :: (code.toList ++ 'm' :: rest)) = some rest := by
    have hends : Number.EndsFigures ('m' :: rest) := Number.endsFigures_cons rfl rest
    rw [behindStyle?, Number.takeWhile_isDigit_append hfigures hends,
      Number.dropWhile_isDigit_append hfigures hends, hcons]
    rfl
  rw [hstyle, removeStyles_of_behindStyle? hbehind]

/-! ## Decorated texts -/

/-- Removing the styles of a text leaves the other one, whatever follows. -/
def Decorates (coloured bare : String) : Prop :=
  ∀ rest, removeStyles (coloured.toList ++ rest) = bare.toList ++ removeStyles rest

namespace Decorates

variable {a b a' b' : String}

theorem refl {s : String} (h : Lacks escapeChar s) : Decorates s s :=
  removeStyles_append_of_notMem h

theorem words {s : String} (h : IsPrintable s.toList := by decide) : Decorates s s :=
  refl (h.lacks (by decide))

theorem append (h : Decorates a b) (h' : Decorates a' b') : Decorates (a ++ a') (b ++ b') := by
  intro rest
  rw [String.toList_append, String.toList_append, List.append_assoc, h, h', List.append_assoc]

theorem removeStyles_eq (h : Decorates a b) : removeStyles a.toList = b.toList := by
  have hwhole := h []
  rwa [List.append_nil, removeStyles, List.append_nil] at hwhole

end Decorates

/-- The palette without colours. -/
def Palette.bare : Palette := ⟨false⟩

theorem Palette.eq_bare {p : Palette} (h : p.coloured = false) : p = bare :=
  congrArg Palette.mk h

variable {p : Palette}

theorem Decorates.paint {code a b : String} (h : Decorates a b)
    (hcode : IsCode code := by decide) :
    Decorates (p.paint code a) (Palette.bare.paint code b) := by
  intro rest
  have hbare : Palette.bare.paint code b = b := rfl
  rw [hbare, Palette.paint]
  split
  · rw [String.toList_append, String.toList_append, List.append_assoc, List.append_assoc,
      removeStyles_style_append hcode, h, removeStyles_style_append (by decide)]
  · exact h rest

/-! ## Decorated lines -/

/-- The lines are decorated one by one. -/
abbrev Decorated : List String → List String → Prop := List.Forall₂ Decorates

theorem Decorated.append {as bs as' bs' : List String} (h : Decorated as bs)
    (h' : Decorated as' bs') : Decorated (as ++ as') (bs ++ bs') := List.rel_append h h'

theorem Decorated.map {α : Type} {f g : α → String} {items : List α}
    (h : ∀ item ∈ items, Decorates (f item) (g item)) : Decorated (items.map f) (items.map g) := by
  induction items with
  | nil => exact .nil
  | cons item items ih =>
    obtain ⟨hitem, hitems⟩ := List.forall_mem_cons.mp h
    exact .cons hitem (ih hitems)

theorem decorates_heading {title : String} (h : IsPrintable title.toList) :
    Decorates (heading p title) (heading .bare title) :=
  .paint (.append (.append .words (.words h)) .words)

/-- Two texts with a space between them. -/
theorem Decorates.spaced {a b a' b' : String} (h : Decorates a b) (h' : Decorates a' b') :
    Decorates (a ++ " " ++ a') (b ++ " " ++ b') :=
  (h.append .words).append h'

theorem decorated_entryLines {e : Entry} (hvalue : e.value.Lacks escapeChar)
    (hdescription : ∀ line ∈ e.description, Lacks escapeChar line) :
    Decorated (entryLines p e) (entryLines .bare e) := by
  refine .append (.append (.cons ?type (.cons ?value .nil)) ?none) (.map ?description)
  case type =>
    have htype : IsPrintable ((e.type.map FieldType.name).getD "-").toList := by
      cases e.type with
      | none => decide
      | some type => cases type <;> decide
    have hrequired : Decorates (if e.required then p.green "yes" else p.dim "no")
        (if e.required then Palette.bare.green "yes" else Palette.bare.dim "no") := by
      split <;> exact .paint .words
    refine .spaced (.append (.append ?_ .words) (.paint .words)) hrequired
    exact .spaced (.append .words (.paint .words)) (.paint (.words htype))
  case value =>
    have hshown : Lacks escapeChar (valueText e.value) := by
      unfold valueText
      split
      · rename_i text htext
        rw [htext] at hvalue
        exact lacks_append.mpr ⟨lacks_append.mpr ⟨by decide, hvalue⟩, by decide⟩
      · exact hvalue
    exact .spaced (.append .words (.paint .words)) (.paint (.paint (.refl hshown)))
  case none =>
    split
    · exact .cons (.append .words (.paint .words)) .nil
    · exact .nil
  case description =>
    intro line hline
    exact .spaced (.append .words (.paint .words)) (.refl (hdescription line hline))

theorem lacks_toString_nat (n : Nat) : Lacks escapeChar (toString n) :=
  (isPrintable_toString_nat n).lacks (by decide)

theorem decorates_summary (effects : Effects) :
    Decorates (summary p effects) (summary .bare effects) := by
  have hpart {holds : Bool} {text : String} (htext : Lacks escapeChar text) :
      ∀ label ∈ (if holds then [text] else []), Lacks escapeChar label := by
    split
    · exact List.forall_mem_singleton.mpr htext
    · exact List.forall_mem_nil _
  have hlabels : ∀ label ∈ effects.labels, Lacks escapeChar label := by
    unfold Effects.labels
    simp only [List.forall_mem_append]
    exact ⟨⟨⟨⟨hpart (by decide), hpart (by decide)⟩, hpart (by decide)⟩, hpart (by decide)⟩,
      hpart (by decide)⟩
  unfold summary
  split
  · exact .paint .words
  · exact .refl (lacks_intercalate (by decide) hlabels)

theorem decorated_parameterLines {parameters : List String}
    (h : ∀ parameter ∈ parameters, Lacks escapeChar parameter) :
    Decorated (parameterLines p parameters) (parameterLines .bare parameters) := by
  unfold parameterLines
  split
  · exact .nil
  · refine .cons (.spaced (.append .words (.paint .words)) (.paint (.refl ?_))) .nil
    exact lacks_intercalate (by decide) h

theorem decorated_outcomeLines (index : Nat) {o : Outcome} (h : o.Lacks escapeChar) :
    Decorated (outcomeLines p index o) (outcomeLines .bare index o) := by
  have hindex : Lacks escapeChar ("[" ++ toString index ++ "]") :=
    lacks_append.mpr ⟨lacks_append.mpr ⟨by decide, lacks_toString_nat index⟩, by decide⟩
  have hnumber : Decorates ("  " ++ p.gray ("[" ++ toString index ++ "]"))
      ("  " ++ Palette.bare.gray ("[" ++ toString index ++ "]")) :=
    .append .words (.paint (.refl hindex))
  unfold outcomeLines
  cases hdispatch : o.dispatch with
  | unknown => exact .cons (.spaced (.spaced hnumber (.paint (.refl h.raw))) (.paint .words)) .nil
  | applied effects dropped =>
    obtain ⟨hrule, hdropped⟩ := h.applied effects dropped hdispatch
    refine .append (.append (.cons ?rule .nil) (decorated_parameterLines h.parameters))
      (.map ?dropped)
    case rule =>
      refine .spaced (.spaced (.spaced hnumber (.paint (.refl hrule))) (.paint .words)) ?_
      exact .paint (decorates_summary effects)
    case dropped =>
      intro error herror
      exact .spaced (.append .words (.paint .words)) (.paint (.refl (hdropped error herror)))

theorem decorated_outcomesLines {outcomes : List Outcome}
    (h : ∀ o ∈ outcomes, o.Lacks escapeChar) (start : Nat) :
    Decorated (outcomesLines p start outcomes) (outcomesLines .bare start outcomes) := by
  induction outcomes generalizing start with
  | nil => exact .nil
  | cons o outcomes ih =>
    obtain ⟨ho, houtcomes⟩ := List.forall_mem_cons.mp h
    exact .append (decorated_outcomeLines start ho) (ih houtcomes (start + 1))

theorem decorated_fieldLines {a : Aggregate} (h : a.Lacks escapeChar) {elapsed : String}
    (helapsed : Lacks escapeChar elapsed) :
    Decorated (fieldLines p elapsed a) (fieldLines .bare elapsed a) := by
  have htitle {title : String} (htitle : IsPrintable title.toList) :
      Decorated ["", heading p title] ["", heading .bare title] :=
    .cons .words (.cons (decorates_heading htitle) .nil)
  refine .append (.append (.append (.append (.append
    (.cons .words (.cons ?name (.cons ?seed (htitle (by decide)))))
    (decorated_entryLines h.value h.description)) (htitle (by decide))) ?none)
    (decorated_outcomesLines h.outcomes 0))
    (.cons .words (.cons (decorates_heading (by decide)) (.cons ?total .nil)))
  case name =>
    have hname : Lacks escapeChar ("⚙  " ++ a.field) := lacks_append.mpr ⟨by decide, h.field⟩
    exact .paint (.paint (.refl hname))
  case seed =>
    refine .append .words (.paint (.refl ?_))
    simp only [lacks_append]
    exact ⟨⟨⟨by decide, h.seed⟩, by decide⟩, lacks_toString_nat _⟩
  case none =>
    split
    · exact .cons (.append .words (.paint .words)) .nil
    · exact .nil
  case total => exact .append .words (.paint (.refl helapsed))

theorem decorates_unlines {as bs : List String} (h : Decorated as bs) :
    Decorates (unlines as) (unlines bs) := by
  induction h with
  | nil => exact .words
  | cons hline _ ih =>
    rw [unlines_cons, unlines_cons]
    exact (hline.append (.refl (by decide))).append ih

/-- The report on fields without escape characters, with times that have none either, is
decorated. -/
theorem decorates_report {fields : List (Aggregate × String)}
    (h : ∀ f ∈ fields, f.1.Lacks escapeChar ∧ Lacks escapeChar f.2) :
    Decorates (report p fields) (report .bare fields) := by
  refine decorates_unlines (.append ?_ (.cons .words .nil))
  induction fields with
  | nil => exact .nil
  | cons f fields ih =>
    obtain ⟨⟨hfield, helapsed⟩, hfields⟩ := List.forall_mem_cons.mp h
    exact .append (decorated_fieldLines hfield helapsed) (ih hfields)

/-! ## The report of a run -/

variable {arguments : List String} {r r' : Request} {environment : Option String}

theorem Request.SameButColours.aggregates_eq (h : r.SameButColours r') :
    r'.aggregates environment = r.aggregates environment := by
  obtain ⟨color, noColor, rfl⟩ := h
  rfl

theorem Request.SameButColours.json_eq (h : r.SameButColours r') : r'.json = r.json := by
  obtain ⟨color, noColor, rfl⟩ := h
  rfl

/-- Without escape characters in the arguments and in the seed, the fields show none. -/
theorem lacks_of_aggregates (hr : Request.ofArguments arguments = .ok r)
    (harguments : ∀ argument ∈ arguments, Lacks escapeChar argument)
    (hseed : Lacks escapeChar (r.seedText environment)) {as : List Aggregate}
    (has : r.aggregates environment = .ok as) : ∀ a ∈ as, a.Lacks escapeChar := by
  intro a ha
  obtain ⟨argument, hmem, hfield⟩ := exists_left_of_forall₂ (fieldOf_of_aggregates hr has) ha
  exact hfield.lacks (by decide) (harguments argument (mem_of_mem_fieldArguments hmem)) hseed

theorem output_without_styles (hjson : r.json = false) (hjson' : r'.json = false)
    {timed : List (Aggregate × String)}
    (h : ∀ f ∈ timed, f.1.Lacks escapeChar ∧ Lacks escapeChar f.2) {terminal terminal' : Bool}
    (hbare : (r'.palette terminal').coloured = false) :
    removeStyles (r.output terminal timed).toList = (r'.output terminal' timed).toList := by
  unfold Request.output
  rw [Palette.eq_bare hbare, hjson, hjson']
  exact (decorates_report h).removeStyles_eq

/-- Colours only decorate.  Wherever options for colours stand among the arguments, the others are
accepted without them and with one of them in front, and they ask for the same but for colours.  Of
two requests that differ in their colours alone, neither of which asks for JSON, the fields are the
same; and where the second one shows no colours, its report is what is left of the report of the
first one when all styles are removed, if there is no escape character in the arguments, in the seed
and in the times. -/
theorem colours_only_decorate (hr : Request.ofArguments arguments = .ok r)
    (hjson : r.json = false) (harguments : ∀ argument ∈ arguments, Lacks escapeChar argument)
    (hseed : Lacks escapeChar (r.seedText environment)) :
    (Request.ofArguments (withoutColours arguments) = .ok (r.withColours false false) ∧
        Request.ofArguments ("--color" :: withoutColours arguments) =
          .ok (r.withColours true false) ∧
        Request.ofArguments ("--no-color" :: withoutColours arguments) =
          .ok (r.withColours false true)) ∧
      ∀ r₁ r₂, r.SameButColours r₁ → r.SameButColours r₂ →
        r₁.aggregates environment = r₂.aggregates environment ∧
          ∀ timed : List (Aggregate × String),
            r₁.aggregates environment = .ok (timed.map Prod.fst) →
            (∀ f ∈ timed, Lacks escapeChar f.2) →
            ∀ terminal₁ terminal₂, (r₂.palette terminal₂).coloured = false →
              removeStyles (r₁.output terminal₁ timed).toList =
                (r₂.output terminal₂ timed).toList := by
  constructor
  · -- read in front, an option leaves a request that is empty but for its colours
    exact ⟨ofArguments_withoutColours hr [] fun _ => rfl,
      ofArguments_withoutColours hr ["--color"] fun _ => rfl,
      ofArguments_withoutColours hr ["--no-color"] fun _ => rfl⟩
  · intro r₁ r₂ hsame₁ hsame₂
    refine ⟨hsame₁.aggregates_eq.trans hsame₂.aggregates_eq.symm, ?_⟩
    intro timed has htimes terminal₁ terminal₂ hbare
    have hfields := lacks_of_aggregates hr harguments hseed (hsame₁.aggregates_eq.symm.trans has)
    refine output_without_styles (hsame₁.json_eq.trans hjson) (hsame₂.json_eq.trans hjson)
      (fun f hf => ⟨?_, htimes f hf⟩) hbare
    exact hfields f.1 (List.mem_map_of_mem hf)

/-- A rule of no kind, a number that cannot be read, and two fields of one name with the option
between them. -/
theorem colours_only_decorate_mishaps :
    ∃ (r : Request) (as : List Aggregate),
      Request.ofArguments ["n=foo|digits:ten|accepted", "--color", "n=accepted", "-s", "GET /"] =
          .ok r ∧
        Request.ofArguments ["n=foo|digits:ten|accepted", "n=accepted", "-s", "GET /"] =
            .ok (r.withColours false false) ∧
          r.aggregates none = .ok as ∧ (r.palette false).coloured = true ∧
            ∀ time ∈ ["412ns", "1.5ms"],
              removeStyles (r.output false (as.map (·, time))).toList =
                ((r.withColours false false).output false (as.map (·, time))).toList := by
  obtain ⟨r, hr, hfields, hseed, hsetting, hjson, hcolour⟩ : ∃ r, Request.ofArguments
      ["n=foo|digits:ten|accepted", "--color", "n=accepted", "-s", "GET /"] = .ok r ∧
        r.fields = [("n", "foo|digits:ten|accepted"), ("n", "accepted")] ∧
          r.seedText none = "GET /" ∧ r.setting = .fixed ∧ r.json = false ∧
            (r.palette false).coloured = true :=
    ⟨_, rfl, rfl, rfl, rfl, rfl, rfl⟩
  obtain ⟨as, has⟩ : ∃ as, r.aggregates none = .ok as := by
    unfold Request.aggregates Request.aggregateField
    rw [hfields, hseed, hsetting]
    exact ⟨_, rfl⟩
  obtain ⟨⟨hwithout, -⟩, hreport⟩ :=
    colours_only_decorate hr hjson (by decide) (by rw [hseed]; decide)
  obtain ⟨-, hremoved⟩ := hreport r _ ⟨_, _, rfl⟩ ⟨false, false, rfl⟩
  refine ⟨r, as, hr, hwithout, has, hcolour, ?_⟩
  intro time htime
  have htimed : (as.map (·, time)).map Prod.fst = as := by simp [Function.comp_def]
  refine hremoved _ (htimed.symm ▸ has) ?_ false false rfl
  intro f hf
  obtain ⟨a, -, rfl⟩ := List.mem_map.mp hf
  have htimes : ∀ time ∈ ["412ns", "1.5ms"], Lacks escapeChar time := by decide
  exact htimes time htime

end FieldGuide.Console
