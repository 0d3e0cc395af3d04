import FieldGuide.Proofs.BundledTemplates
import FieldGuide.Proofs.DateBounds
import FieldGuide.Proofs.LogAndTrace
import FieldGuide.Proofs.Phrases
import FieldGuide.Proofs.SampleTexts
import FieldGuide.Proofs.Seeds
set_option autoImplicit false

/-!
# The texts that a documented field shows

Templates, phrases, names of days and example texts are printable, and whatever else a documented
field shows has been in its name, in its rules or in its seed.  So its value, its description and
the outcomes of its rules have no control character that these lack.
-/

namespace FieldGuide

open Text

variable {c : Char}

/-! ## Templates and phrases -/

/-- What stands in a filled template has been in the template or in an argument. -/
theorem Template.notMem_fillChars {text : List Char} {args : List (List Char)} (htext : c ∉ text)
    (hargs : ∀ arg ∈ args, c ∉ arg) : c ∉ fillChars text args := by
  fun_induction fillChars text args with
  | case1 => exact htext
  | case2 => exact htext
  | case3 => exact htext
  | case4 colon d cs arg args _ ih =>
    obtain ⟨harg, hargs⟩ := List.forall_mem_cons.mp hargs
    rw [List.mem_cons, List.mem_cons, not_or, not_or] at htext
    have hrest : c ∉ cs.dropWhile continuesName :=
      fun hmem => htext.2.2 ((List.dropWhile_sublist _).subset hmem)
    exact List.not_mem_append harg (ih hrest hargs)
  | case5 colon d cs arg args _ ih =>
    rw [List.mem_cons, not_or] at htext ⊢
    exact ⟨htext.1, ih htext.2 hargs⟩

theorem Template.lacks_fill {text : String} {args : List String} (htext : Lacks c text)
    (hargs : ∀ arg ∈ args, Lacks c arg) : Lacks c (fill text args) := by
  refine lacks_ofList.mpr (notMem_fillChars htext ?_)
  intro cs hmem
  obtain ⟨arg, harg, rfl⟩ := List.mem_map.mp hmem
  exact hargs arg harg

theorem Kind.isPrintable_template? {k : Kind} {template : String}
    (h : k.template? = some template) : IsPrintable template.toList := by
  cases k <;> cases h <;> exact isPrintable_of_bytes rfl

namespace Wording

variable {items : List (List Char)}

theorem notMem_mark (htick : c ≠ tick) {item : List Char} (hitem : c ∉ item) : c ∉ mark item := by
  simp [mark, htick, hitem]

theorem notMem_enumerate {sep last : List Char} (htick : c ≠ tick) (hsep : c ∉ sep)
    (hlast : c ∉ last) (hitems : ∀ item ∈ items, c ∉ item) : c ∉ enumerate sep last items := by
  induction items with
  | nil => simp [enumerate]
  | cons item items ih =>
    obtain ⟨hitem, hitems⟩ := List.forall_mem_cons.mp hitems
    have hgap : c ∉ gap sep last items.length := by
      unfold gap
      split
      · exact List.not_mem_nil
      · exact hlast
      · exact hsep
    rw [enumerate_cons]
    exact List.not_mem_append (List.not_mem_append (notMem_mark htick hitem) hgap) (ih hitems)

theorem notMem_links (htick : c ≠ tick) (hor : c ∉ " or ".toList) (his : c ∉ " is ".toList)
    (hitems : ∀ item ∈ items, c ∉ item) (named : Bool) : c ∉ links named items := by
  induction items generalizing named with
  | nil => exact List.not_mem_nil
  | cons item items ih =>
    obtain ⟨hitem, hitems⟩ := List.forall_mem_cons.mp hitems
    have hlink : c ∉ (if named then " or ".toList else " is ".toList) := by
      split
      · exact hor
      · exact his
    exact List.not_mem_append (List.not_mem_append (notMem_mark htick hitem) hlink)
      (ih hitems (!named))

end Wording

/-- A control character is no printable one. -/
theorem Text.ne_of_control {d : Char} (hc : c < ' ') (hd : ' ' ≤ d) : c ≠ d := by
  rintro rfl
  exact Char.not_lt.mpr hd hc

theorem lacks_phraseOf (hc : c < ' ') {link : String} (hlink : Lacks c link) {items : List String}
    (hitems : ∀ item ∈ items, Lacks c item) : Lacks c (phraseOf link items) := by
  refine lacks_ofList.mpr (Wording.notMem_enumerate (ne_of_control hc (by decide)) ?_ hlink ?_)
  · exact IsPrintable.notMem (by decide) hc
  · exact List.forall_mem_map.mpr hitems

theorem lacks_conditionsOf (hc : c < ' ') {items : List String}
    (hitems : ∀ item ∈ items, Lacks c item) : Lacks c (conditionsOf items) := by
  have hlinks := Wording.notMem_links (ne_of_control hc (by decide))
    (IsPrintable.notMem (by decide) hc) (IsPrintable.notMem (by decide) hc)
    (List.forall_mem_map.mpr hitems) false
  refine lacks_ofList.mpr ?_
  intro hmem
  rw [Wording.conditions, List.mem_reverse] at hmem
  exact hlinks (List.mem_reverse.mp ((List.dropWhile_sublist _).subset hmem))

/-! ## Names of tables -/

namespace Noun

variable {cs ds : List Char}

theorem notMem_dropLast (hcs : c ∉ cs) (n : Nat) : c ∉ dropLast n cs :=
  fun hmem => hcs (List.mem_of_mem_take hmem)

/-- The endings add nothing but letters. -/
theorem notMem_of_ending (hc : c < ' ') (hcs : c ∉ cs)
    (h : (ofIes? cs <|> ofVes? cs <|> ofEs? cs <|> ofS? cs) = some ds) : c ∉ ds := by
  have hdrop := notMem_dropLast hcs
  have hy : c ≠ 'y' := ne_of_control hc (by decide)
  have hf : c ≠ 'f' := ne_of_control hc (by decide)
  have he : c ≠ 'e' := ne_of_control hc (by decide)
  have hies (hsome : ofIes? cs = some ds) : c ∉ ds := by
    unfold ofIes? at hsome
    split at hsome
    · cases hsome
    · split at hsome
      · cases hsome
        exact hdrop 1
      · split at hsome
        · split at hsome <;> cases hsome
          simp [hdrop, hy]
        · cases hsome
  have hves (hsome : ofVes? cs = some ds) : c ∉ ds := by
    unfold ofVes? at hsome
    split at hsome
    · cases hsome
    · dsimp only at hsome
      split at hsome <;> cases hsome <;> simp [hdrop, hf, he]
  have hes (hsome : ofEs? cs = some ds) : c ∉ ds := by
    unfold ofEs? at hsome
    split at hsome
    · cases hsome
    · dsimp only at hsome
      split at hsome
      · cases hsome
        exact notMem_dropLast (hdrop 2) 1
      · split at hsome <;> cases hsome
        exact hdrop 2
  have hs (hsome : ofS? cs = some ds) : c ∉ ds := by
    unfold ofS? at hsome
    split at hsome <;> cases hsome
    exact hdrop 1
  simp only [Option.orElse_eq_orElse, Option.orElse_eq_or, Option.or_eq_some_iff] at h
  rcases h with h | ⟨-, h | ⟨-, h | ⟨-, h⟩⟩⟩
  · exact hies h
  · exact hves h
  · exact hes h
  · exact hs h

theorem lacks_singularWord (hc : c < ' ') {word : String} (hword : Lacks c word) :
    Lacks c (singularWord word) := by
  have hlisted : irregular.all (hasPrintableBytes ·.2) = true := rfl
  unfold singularWord
  split
  · rename_i singular hsome
    obtain ⟨front, back, hsplit, -⟩ := List.lookup_eq_some_iff.mp hsome
    have hbytes := List.all_eq_true.mp hlisted (word, singular) (by simp [hsplit])
    exact (isPrintable_of_bytes hbytes).lacks hc
  · split
    · exact hword
    · dsimp only
      split
      · rename_i ending hsome
        exact lacks_ofList.mpr (notMem_of_ending hc hword hsome)
      · exact hword

theorem lacks_singular (hc : c < ' ') {name : String} (hname : Lacks c name) :
    Lacks c (singular name) := by
  have hlast : c ∉ (name.toList.reverse.takeWhile (· ≠ '_')).reverse := by
    intro hmem
    have hfront := (List.takeWhile_sublist _).subset (List.mem_reverse.mp hmem)
    exact hname (List.mem_reverse.mp hfront)
  refine lacks_append.mpr ⟨?_, lacks_singularWord hc (lacks_ofList.mpr hlast)⟩
  exact lacks_ofList.mpr (notMem_dropLast hname _)

end Noun

/-! ## Moments -/

namespace Calendar

@[simp] theorem isPrintable_lastFigures (width n : Nat) :
    IsPrintable (Number.lastFigures width n) :=
  isPrintable_of_isDigit fun _ => Number.isDigit_of_mem_lastFigures

/-- A name of a list of printable ones, or no text where there is none, is printable. -/
theorem isPrintable_getD {names : List String} (h : ∀ name ∈ names, IsPrintable name.toList)
    (index : Nat) : IsPrintable (names.getD index "").toList := by
  rw [List.getD_eq_getElem?_getD]
  cases hname : names[index]? with
  | none => exact isPrintable_nil
  | some name => exact h name (List.mem_of_getElem? hname)

@[simp] theorem isPrintable_weekdayName (day : Nat) : IsPrintable (weekdayName day) :=
  isPrintable_getD (by decide) day

@[simp] theorem isPrintable_monthName (month : Nat) : IsPrintable (monthName month) :=
  isPrintable_getD (by decide) (month - 1)

@[simp] theorem isPrintable_shortName {name : List Char} (h : IsPrintable name) :
    IsPrintable (shortName name) :=
  fun c hc => h c (List.mem_of_mem_take hc)

namespace DateLetters

@[simp] theorem isPrintable_yearText (year : Int) : IsPrintable (yearText year) := by
  unfold yearText
  rw [isPrintable_append]
  constructor
  · split
    · decide
    · split <;> decide
  · split <;> simp

@[simp] theorem isPrintable_wholeText (n : Int) : IsPrintable (wholeText n) := by
  unfold wholeText
  split <;> simp

@[simp] theorem isPrintable_dayEnding (day : Nat) : IsPrintable (dayEnding day) := by
  unfold dayEnding
  split
  · decide
  · split
    · decide
    · split <;> decide

@[simp] theorem isPrintable_clockText (t : Clock) : IsPrintable (clockText t) := by
  simp [clockText]

theorem isPrintable_boundLine (m : Moment) : IsPrintable (boundLine m).toList := by
  simp [boundLine]

/-- A character of a format stands for something printable, or for itself. -/
theorem isPrintable_meaning_or (m : Moment) (d : Char) :
    IsPrintable (meaning m d) ∨ meaning m d = [d] := by
  unfold meaning
  dsimp only
  -- every letter of a format, and at last a character that is none
  split
  all_goals
    first
    | left; simp [joinedText, mailText]; done
    | left; split <;> decide
    | right; rfl

/-- A format adds nothing but printable text to its own characters. -/
theorem notMem_interpret (hc : c < ' ') (m : Moment) {format : List Char} (hformat : c ∉ format) :
    c ∉ interpret m format := by
  fun_induction interpret m format with
  | case1 => exact hformat
  | case2 d ds ih =>
    simp only [List.mem_cons, not_or] at hformat ⊢
    exact ⟨hformat.2.1, ih hformat.2.2⟩
  | case3 => exact List.not_mem_nil
  | case4 d ds _ _ ih =>
    rw [List.mem_cons, not_or] at hformat
    refine List.not_mem_append ?_ (ih hformat.2)
    rcases isPrintable_meaning_or m d with hprintable | hself
    · exact hprintable.notMem hc
    · rw [hself, List.mem_singleton]
      exact hformat.1

end DateLetters

theorem Iso.isPrintable_dateText (d : Date) : IsPrintable (dateText d) := by
  simp [dateText]

end Calendar

/-! ## Arguments and fragments -/

theorem Input.list_eq {i : Input} {items : List String} (h : i.list = .ok items) :
    i.parameters = items := by
  unfold list at h
  split at h
  · cases h
  · exact Except.ok.inj h

/-- The arguments of a description come of the parameters of the rule and the name of the field. -/
theorem Describing.lacks_arguments (hc : c < ' ') {d : Describing} {i : Input}
    {args : List String} (h : (d.arguments i).run = .ok (.ok args)) (hfield : Lacks c i.field)
    (hparameters : ∀ p ∈ i.parameters, Lacks c p) : ∀ arg ∈ args, Lacks c arg := by
  have hparameter {index : Nat} {p : String}
      (hp : (liftM (i.parameter index) : Attempt String).run = .ok (.ok p)) : Lacks c p :=
    hparameters p (Input.mem_of_parameter hp)
  have hlist {items : List String}
      (hitems : (liftM i.list : Attempt (List String)).run = .ok (.ok items)) :
      ∀ item ∈ items, Lacks c item := by
    rw [Attempt.run_lift] at hitems
    rwa [← Input.list_eq (Except.ok.inj hitems)]
  cases d with
  | bare =>
    rw [← Attempt.pure_eq_done.mp h]
    exact List.forall_mem_nil _
  | first =>
    obtain ⟨p, hp, h⟩ := Attempt.bind_eq_done.mp h
    rw [← Attempt.pure_eq_done.mp h]
    exact List.forall_mem_singleton.mpr (hparameter hp)
  | pair =>
    obtain ⟨p, hp, h⟩ := Attempt.bind_eq_done.mp h
    obtain ⟨q, hq, h⟩ := Attempt.bind_eq_done.mp h
    rw [← Attempt.pure_eq_done.mp h]
    exact List.forall_mem_cons.mpr
      ⟨hparameter hp, List.forall_mem_singleton.mpr (hparameter hq)⟩
  | anyOf | allOf =>
    obtain ⟨items, hitems, h⟩ := Attempt.bind_eq_done.mp h
    rw [← Attempt.pure_eq_done.mp h]
    refine List.forall_mem_singleton.mpr (lacks_phraseOf hc ?_ (hlist hitems))
    exact IsPrintable.lacks (by decide) hc
  | conditions =>
    obtain ⟨items, hitems, h⟩ := Attempt.bind_eq_done.mp h
    rw [← Attempt.pure_eq_done.mp h]
    exact List.forall_mem_singleton.mpr (lacks_conditionsOf hc (hlist hitems))
  | bound =>
    obtain ⟨raw, -, h⟩ := Attempt.bind_eq_done.mp h
    obtain ⟨m, -, h⟩ := Attempt.bind_eq_done.mp h
    rw [boundText_eq, pure_bind] at h
    rw [← Attempt.pure_eq_done.mp h]
    exact List.forall_mem_singleton.mpr
      ((Calendar.DateLetters.isPrintable_boundLine m).lacks hc)
  | tableAndColumn =>
    obtain ⟨table, htable, h⟩ := Attempt.bind_eq_done.mp h
    rw [← Attempt.pure_eq_done.mp h]
    refine List.forall_mem_cons.mpr
      ⟨Noun.lacks_singular hc (hparameter htable), List.forall_mem_singleton.mpr ?_⟩
    cases hcolumn : i.parameters[1]? with
    | none => exact hfield
    | some column => exact hparameters column (List.mem_of_getElem? hcolumn)

variable {setting : Setting} {field : String}

theorem Outcome.HasFragment.lacks (hc : c < ' ') {o : Outcome} {fragment : String}
    (h : o.HasFragment Catalogue.bundled.template setting field fragment) (hfield : Lacks c field)
    (hparameters : ∀ p ∈ o.parameters, Lacks c p) : Lacks c fragment := by
  obtain ⟨k, d, args, hname, hspec, hargs, rfl⟩ := h
  obtain ⟨template, htemplate, -⟩ := Kind.exists_template? hspec
  have htext : Catalogue.bundled.template o.rule = template := by
    rw [← Kind.name_of_ofName? hname]
    exact Catalogue.bundledText_of_template? htemplate
  rw [htext]
  exact Template.lacks_fill ((Kind.isPrintable_template? htemplate).lacks hc)
    (Describing.lacks_arguments hc (hargs none) hfield hparameters)

/-! ## Values -/

theorem Kind.isPrintable_fixed {k : Kind} {value : Example}
    (h : k.spec.exemplifying = some (.fixed value)) : IsPrintable value.display.toList := by
  cases k <;> cases h <;> decide

theorem isPrintable_of_mem_zones {zone : String} (h : zone ∈ zones) :
    IsPrintable zone.toList := by
  have hall : zones.all hasPrintableBytes = true := by decide +kernel
  exact isPrintable_of_bytes (List.all_eq_true.mp hall zone h)

namespace Text

theorem IsWord.isPrintable {cs : List Char} (h : IsWord cs) : IsPrintable cs :=
  fun d hd => Char.le_trans (by decide) (h.2 d hd).1

theorem IsMailAddress.isPrintable {cs : List Char} (h : IsMailAddress cs) : IsPrintable cs := by
  obtain ⟨user, domain, huser, hdomain, rfl⟩ := h.parts
  have hdomains : ∀ domain ∈ ["example.com", "example.org", "example.net"],
      IsPrintable domain.toList := by decide
  have huser : IsPrintable user := by
    cases huser with
    | word hword => exact hword.isPrintable
    | dotted hfront hback => simp [hfront.isPrintable, hback.isPrintable]
    | numbered hword => simp [hword.isPrintable]
  simp [huser, hdomains domain hdomain]

theorem IsWebAddress.isPrintable {cs : List Char} (h : IsWebAddress cs) : IsPrintable cs := by
  obtain ⟨scheme, host, suffix, first, second, hscheme, hsuffix, hhost, hfirst, hsecond, rfl⟩ := h
  have hschemes : ∀ scheme ∈ ["http", "https"], IsPrintable scheme.toList := by decide
  have hsuffixes : ∀ suffix ∈ hostSuffixes, IsPrintable suffix.toList := by decide
  simp [hschemes scheme hscheme, hsuffixes suffix hsuffix, hhost.isPrintable, hfirst.isPrintable,
    hsecond.isPrintable]

theorem IsAddressOf.isPrintable {n : Nat} {cs : List Char} (h : IsAddressOf n cs) :
    IsPrintable cs := by
  obtain ⟨_, _, _, _, -, rfl, -⟩ := h.parts
  simp [dotted]

end Text

/-- The value is shown without the character. -/
def Example.Lacks (c : Char) (value : Example) : Prop := Text.Lacks c value.display

theorem Example.lacks_number (hc : c < ' ') (n : Int64) : (number n).Lacks c :=
  (isPrintable_toString_int n.toInt).lacks hc

namespace Plan

theorem gives_drawText (hc : c < ' ') {x : Sampler String}
    (h : ∀ {s s' : Stream} {text : String}, x.run s = .ok (text, s') →
      IsPrintable text.toList) : (draw (.text <$> x)).Gives (Example.Lacks c) :=
  gives_draw_map fun hrun => (h hrun).lacks hc

theorem gives_ofAttempt {P : Example → Prop} {a : Attempt Example} {plan : Plan}
    (h : ofAttempt a = .ok plan) (hvalue : ∀ value, a.run = .ok (.ok value) → P value) :
    plan.Gives P := by
  unfold ofAttempt at h
  rcases hrun : a.run with cause | (error | value)
  · rw [hrun] at h
    cases h
  · rw [hrun] at h
    cases h
    trivial
  · rw [hrun] at h
    cases h
    intro s s' value' hdraw
    rw [← (Sampler.pure_eq_ok.mp hdraw).1]
    exact hvalue value hrun

end Plan

theorem lacks_dayFromBound (hc : c < ' ') {i : Input} {days : Int} {value : Example}
    (h : (dayFromBound i days).run = .ok (.ok value)) : value.Lacks c := by
  obtain ⟨raw, -, h⟩ := Attempt.bind_eq_done.mp h
  obtain ⟨m, -, h⟩ := Attempt.bind_eq_done.mp h
  split at h
  · rw [boundText_eq, pure_bind] at h
    rw [← Attempt.pure_eq_done.mp h]
    exact (Calendar.DateLetters.isPrintable_boundLine _).lacks hc
  · cases h

theorem lacks_referenceTime (hc : c < ' ') {i : Input} {value : Example}
    (hparameters : ∀ p ∈ i.parameters, Text.Lacks c p)
    (h : (referenceTime i).run = .ok (.ok value)) : value.Lacks c := by
  obtain ⟨format, hformat, h⟩ := Attempt.bind_eq_done.mp h
  have hlacks : Text.Lacks c format := hparameters format (Input.mem_of_parameter hformat)
  have hshown := (Calendar.shows_toPattern i.setting.reference format.toList).2
  rw [Calendar.DateLetters.format?, hshown] at h
  rw [← Attempt.pure_eq_done.mp h]
  exact lacks_ofList.mpr (Calendar.DateLetters.notMem_interpret hc _ hlacks)

/-- The examples of a kind of rules show nothing but printable texts and its parameters. -/
theorem Kind.plan_gives_lacks (hc : c < ' ') {k : Kind} {i : Input} {x : Exemplifying}
    (hspec : k.spec.exemplifying = some x) {plan : Plan} (h : x.plan i = .ok plan)
    (hparameters : ∀ p ∈ i.parameters, Text.Lacks c p) : plan.Gives (Example.Lacks c) := by
  cases x with
  | fixed value =>
    cases h
    intro s s' value' hdraw
    rw [← (Sampler.pure_eq_ok.mp hdraw).1]
    exact (Kind.isPrintable_fixed hspec).lacks hc
  | word =>
    cases h
    exact Plan.gives_drawText hc fun hrun => (Sampler.isWord_of_word hrun).isPrintable
  | number | atLeast | atMost | within =>
    -- whatever the bounds are, a number is written
    refine (Exemplifying.plan_gives_number (by decide) h).imp ?_
    rintro _ ⟨n, rfl⟩
    exact Example.lacks_number hc n
  | date =>
    cases h
    refine Plan.gives_draw_map ?_
    intro s s' text hrun
    obtain ⟨d, -, rfl⟩ := Sampler.bind_pure_eq_ok.mp hrun
    have hpattern := Calendar.Iso.Layout.onDate?_pattern d
    rw [show datePattern = Calendar.Iso.Layout.dateOnly.pattern from rfl, hpattern]
    exact lacks_ofList.mpr ((Calendar.Iso.isPrintable_dateText d).notMem hc)
  | email =>
    cases h
    exact Plan.gives_drawText hc fun hrun => (Sampler.isMailAddress_of_email hrun).isPrintable
  | url =>
    cases h
    exact Plan.gives_drawText hc fun hrun => (Sampler.isWebAddress_of_url hrun).isPrintable
  | address =>
    cases h
    refine Plan.gives_drawText hc ?_
    intro s s' text hrun
    obtain ⟨n, -, -, haddress⟩ := Sampler.isAddressOf_of_address hrun
    exact haddress.isPrintable
  | digits =>
    cases h
    cases hreading : digitsReading i with
    | error error => trivial
    | ok sampler =>
      intro s s' value hdraw
      obtain ⟨count, -, hdigits⟩ := digitsReading_eq_ok hreading
      exact (isPrintable_of_isDigit (hdigits hdraw).1.2).lacks hc
  | dayFromBound days => exact Plan.gives_ofAttempt h fun _ => lacks_dayFromBound hc
  | referenceTime => exact Plan.gives_ofAttempt h fun _ => lacks_referenceTime hc hparameters
  | timezone =>
    cases h
    refine Plan.gives_drawText hc ?_
    intro s s' text hrun
    obtain ⟨zone, hzone, rfl⟩ := Sampler.bind_pure_eq_ok.mp hrun
    rcases Sampler.element_eq_ok.mp hzone with ⟨-, rfl, -⟩ | ⟨_, _, index, hindex, _, rfl, _⟩
    · decide
    · exact isPrintable_of_mem_zones (List.getElem_mem hindex)
  | member =>
    cases h
    cases hlist : i.list with
    | error error => trivial
    | ok items =>
      refine Plan.gives_draw_map ?_
      intro s s' item hrun
      rcases Sampler.element_eq_ok.mp hrun with ⟨-, rfl, -⟩ | ⟨_, _, index, hindex, _, rfl, _⟩
      · exact IsPrintable.lacks (by decide) hc
      · exact hparameters _ (Input.list_eq hlist ▸ List.getElem_mem hindex)

/-! ## Fields -/

/-- What is shown of an outcome lacks the character. -/
structure Outcome.Lacks (c : Char) (o : Outcome) : Prop where
  raw : Text.Lacks c o.raw
  parameters : ∀ p ∈ o.parameters, Text.Lacks c p
  applied : ∀ effects dropped, o.dispatch = .applied effects dropped →
    Text.Lacks c o.rule ∧ ∀ error ∈ dropped, Text.Lacks c error.message

theorem Step.lacks {templates : Templates} (hc : c < ' ') {raw : String} {e e' : Entry}
    {s s' : Stream} {o : Outcome} (h : Step templates setting field raw e s o e' s')
    (hraw : Text.Lacks c raw) : o.Lacks c := by
  have hparameters : ∀ p ∈ (Rule.canonical raw).parameters, Text.Lacks c p :=
    fun p hp => hraw.of_subset (Rule.subset_of_mem_parameters hp)
  cases h with
  | unknown hname => exact ⟨hraw, hparameters, nofun⟩
  | @applied k a s' hname happly =>
    refine ⟨hraw, hparameters, ?_⟩
    intro effects dropped hdispatch
    cases hdispatch
    refine ⟨?_, lacks_message_of_apply hc happly hraw⟩
    rw [Rule.outcome, ← Kind.name_of_ofName? hname]
    exact k.isPrintable_name.lacks hc

theorem Run.lacks {templates : Templates} (hc : c < ' ') {rules : List String} {e e' : Entry}
    {s s' : Stream} {outcomes : List Outcome}
    (h : Run templates setting field rules e s outcomes e' s')
    (hrules : ∀ raw ∈ rules, Text.Lacks c raw) : ∀ o ∈ outcomes, o.Lacks c := by
  induction h with
  | nil e s => exact List.forall_mem_nil _
  | cons step rest ih =>
    obtain ⟨hraw, hraws⟩ := List.forall_mem_cons.mp hrules
    exact List.forall_mem_cons.mpr ⟨step.lacks hc hraw, ih hraws⟩

theorem Outcome.Yields.lacks (hc : c < ' ') {o : Outcome} {value : Example}
    (h : o.Yields setting field value) (hparameters : ∀ p ∈ o.parameters, Text.Lacks c p) :
    value.Lacks c := by
  obtain ⟨k, x, type, plan, s, s', -, hspec, hplan, hrun⟩ := h
  exact (Kind.plan_gives_lacks hc hspec hplan hparameters).of_run hrun

/-- A run leaves the value that it has found, or one that shows nothing else than its rules do. -/
theorem Run.lacks_value {templates : Templates} (hc : c < ' ') {rules : List String}
    {e e' : Entry} {s s' : Stream} {outcomes : List Outcome}
    (h : Run templates setting field rules e s outcomes e' s') (hvalue : e.value.Lacks c)
    (houtcomes : ∀ o ∈ outcomes, o.Lacks c) : e'.value.Lacks c := by
  rcases h.last Effects.exemplifies with hnone |
    ⟨xs, raw, ys, before, o, after, e₁, s₁, e₂, s₂, -, rfl, -, -, -, hexample, hafter⟩
  · rw [(h.value_of_noneWith hnone).1]
    exact hvalue
  · exact (h.yields_of_lastWith (lastWith_append hexample hafter)).lacks hc
      (houtcomes o (by simp)).parameters

theorem exists_left_of_forall₂ {α β : Type} {R : α → β → Prop} {xs : List α} {ys : List β}
    (h : List.Forall₂ R xs ys) {y : β} (hy : y ∈ ys) : ∃ x ∈ xs, R x y := by
  induction h with
  | nil => cases hy
  | cons hxy _ ih =>
    rcases List.mem_cons.mp hy with rfl | hmem
    · exact ⟨_, List.mem_cons_self, hxy⟩
    · obtain ⟨x, hx, hR⟩ := ih hmem
      exact ⟨x, List.mem_cons_of_mem _ hx, hR⟩

theorem Described.lacks (hc : c < ' ') {outcomes : List Outcome} {fragments : List String}
    (h : Described Catalogue.bundled.template setting field outcomes fragments)
    (hfield : Text.Lacks c field) (houtcomes : ∀ o ∈ outcomes, o.Lacks c) :
    ∀ fragment ∈ fragments, Text.Lacks c fragment := by
  intro fragment hmem
  obtain ⟨o, ho, hfragment⟩ := exists_left_of_forall₂ h hmem
  exact hfragment.lacks hc hfield (houtcomes o (List.mem_filter.mp ho).1).parameters

/-- What is shown of a traced field lacks the character. -/
structure Aggregate.Lacks (c : Char) (a : Aggregate) : Prop where
  field : Text.Lacks c a.field
  seed : Text.Lacks c a.seed
  value : a.entry.value.Lacks c
  description : ∀ line ∈ a.entry.description, Text.Lacks c line
  outcomes : ∀ o ∈ a.outcomes, o.Lacks c

/-- A field that is documented with the bundled templates shows no control character but those of
its name, its rules and its seed. -/
theorem lacks_of_aggregate (hc : c < ' ') {rules : List String} {seed : String} {a : Aggregate}
    (h : aggregate Catalogue.bundled.template setting field rules seed = .ok a)
    (hfield : Text.Lacks c field) (hrules : ∀ raw ∈ rules, Text.Lacks c raw)
    (hseed : Text.Lacks c seed) : a.Lacks c := by
  obtain ⟨e, s, s', hrun, hfinal⟩ := aggregate_eq_ok h
  have houtcomes := hrun.lacks hc hrules
  have htraces := traces_of_aggregate h
  have hvalue : e.value.Lacks c :=
    hrun.lacks_value hc (IsPrintable.lacks (by decide) hc) houtcomes
  obtain ⟨fragments, hdescribed, hdescription, -⟩ := hrun.frame
  constructor
  case field => rwa [htraces.field_eq]
  case seed => rwa [htraces.seed_eq]
  case value =>
    rcases finalize_eq_ok.mp hfinal with ⟨-, w, hword, hentry⟩ | ⟨-, -, hentry⟩
    · rw [hentry]
      exact (Sampler.isWord_of_word hword).isPrintable.lacks hc
    · rw [hentry]
      exact hvalue
  case description =>
    rw [description_of_finalize hfinal, hdescription]
    exact hdescribed.lacks hc hfield houtcomes
  case outcomes => exact houtcomes

namespace Console

/-- An argument and a seed without the character make a field that is shown without it. -/
theorem Request.FieldOf.lacks (hc : c < ' ') {r : Request} {environment : Option String}
    {argument : String} {a : Aggregate} (h : r.FieldOf environment argument a)
    (hargument : Text.Lacks c argument) (hseed : Text.Lacks c (r.seedText environment)) :
    a.Lacks c := by
  obtain ⟨field, hsplit, haggregate⟩ := h
  have hrules : Text.Lacks c field.2 := hargument.of_subset hsplit.subset.2
  exact lacks_of_aggregate hc haggregate (hargument.of_subset hsplit.subset.1)
    (fun raw hraw => hrules.of_subset (RuleText.subset_of_mem_piped hraw)) hseed

end Console

end FieldGuide
