import FieldGuide.Console.Usage
import FieldGuide.Proofs.FieldArguments
set_option autoImplicit false

/-!
# Asking for colours

The options for colours may stand anywhere among the arguments, and they change nothing else in a
request.  Where arguments are accepted, so are the others without these options, and with one of
them in front; all of them ask for the same but for colours.
-/

namespace FieldGuide.Console

/-! ## Steps that follow others -/

/-- Where the first step goes on, so does the second, and what they come to is related. -/
def Follows {α β : Type} (R : α → β → Prop) (x : Step α) (y : Step β) : Prop :=
  ∀ ⦃a⦄, x = .ok a → ∃ b, y = .ok b ∧ R a b

namespace Follows

variable {α β γ δ : Type} {R : α → β → Prop} {S : γ → δ → Prop}

theorem ok {a : α} {b : β} (h : R a b) : Follows R (.ok a) (.ok b) := by
  rintro _ ⟨⟩
  exact ⟨b, rfl, h⟩

theorem refuse (error : UsageError) (y : Step β) : Follows R (refuse error) y := by
  rintro _ ⟨⟩

theorem error (stop : Stop) (y : Step β) : Follows R (.error stop) y := by
  rintro _ ⟨⟩

theorem bind {x : Step α} {y : Step β} {f : α → Step γ} {g : β → Step δ} (h : Follows R x y)
    (hf : ∀ a b, R a b → Follows S (f a) (g b)) : Follows S (x >>= f) (y >>= g) := by
  intro c hc
  obtain ⟨a, ha, hc⟩ := Step.bind_eq_ok.mp hc
  obtain ⟨b, hb, hab⟩ := h ha
  obtain ⟨d, hd, hcd⟩ := hf a b hab hc
  exact ⟨d, Step.bind_eq_ok.mpr ⟨b, hb, hd⟩, hcd⟩

theorem bind_same {x : Step α} {f : α → Step γ} {g : α → Step δ}
    (hf : ∀ a, Follows S (f a) (g a)) : Follows S (x >>= f) (x >>= g) := by
  cases x with
  | error stop => exact .error stop _
  | ok a => exact hf a

theorem refuse_if {c : Prop} [Decidable c] {error : UsageError} {x : Step α} {y : Step β}
    (h : Follows R x y) :
    Follows R (if c then Console.refuse error else x) (if c then Console.refuse error else y) := by
  split
  · exact .refuse _ _
  · exact h

end Follows

/-! ## Options for colours -/

/-- The flags of the options for colours. -/
def colourFlags : List Flag := [.color, .noColor]

/-- The options for colours, as arguments. -/
def colourOptions : List String := colourFlags.map Flag.argument

/-- The arguments without the options for colours; behind the mark there are none. -/
def withoutColours : List String → List String
  | [] => []
  | argument :: rest =>
    if argument = fieldsMark then argument :: rest
    else if argument ∈ colourOptions then withoutColours rest
    else argument :: withoutColours rest

/-- The request with other wishes for colours. -/
def Request.withColours (r : Request) (color noColor : Bool) : Request :=
  { r with color := color, noColor := noColor }

/-- The second request is the first one but for its colours. -/
def Request.SameButColours (r r' : Request) : Prop :=
  ∃ color noColor, r' = r.withColours color noColor

/-- The long name of an option without a value is how errors name it. -/
theorem argument_of_optionOfName? {name : String} {flag : Flag}
    (h : optionOfName? name = some (.flag flag)) : flag.argument = "--" ++ name := by
  obtain ⟨front, back, hsplit, -⟩ := List.lookup_eq_some_iff.mp h
  have hmem : (name, OptionName.flag flag) ∈ front ++ (name, .flag flag) :: back := by simp
  rw [← hsplit] at hmem
  simp only [List.mem_cons, Prod.mk.injEq, reduceCtorEq, and_false, or_false, false_or,
    List.not_mem_nil, OptionName.flag.injEq] at hmem
  rcases hmem with ⟨rfl, rfl⟩ | ⟨rfl, rfl⟩ | ⟨rfl, rfl⟩ | ⟨rfl, rfl⟩ | ⟨rfl, rfl⟩ | ⟨rfl, rfl⟩ <;>
    rfl

/-- No letter stands for an option for colours. -/
theorem optionOfLetter?_colour {c : Char} {flag : Flag}
    (h : optionOfLetter? c = some (.flag flag)) : flag ∉ colourFlags := by
  unfold optionOfLetter? at h
  split at h <;> cases h <;> decide

/-! ## Steps with other colours -/

variable {color noColor : Bool} {r r' : Request}

variable (color noColor) in
/-- The steps go on alike, with these colours in the second request. -/
abbrev Recoloured (x y : Step Request) : Prop :=
  Follows (fun r r' => r' = r.withColours color noColor) x y

theorem recoloured_setValue (r : Request) (option : ValueOption) (value : String) :
    Recoloured color noColor (setValue r option value)
      (setValue (r.withColours color noColor) option value) := by
  cases option with
  | seed => exact .refuse_if (.ok rfl)
  | reference => exact .refuse_if (.bind_same fun _ => .ok rfl)
  | dialect => exact .refuse_if (.bind_same fun _ => .ok rfl)

theorem recoloured_setFlag (r : Request) {flag : Flag} (hflag : flag ∉ colourFlags) :
    Recoloured color noColor (setFlag r flag) (setFlag (r.withColours color noColor) flag) := by
  cases flag with
  | json => exact .refuse_if (.ok rfl)
  | color | noColor => exact absurd (by decide) hflag
  | verbose => exact .ok rfl
  | help | version => exact .error _ _

/-- An option for colours changes nothing but colours. -/
theorem withColours_of_setFlag {flag : Flag} (hflag : flag ∈ colourFlags)
    (h : setFlag r flag = .ok r') : r'.withColours color noColor = r.withColours color noColor := by
  simp only [colourFlags, List.mem_cons, List.not_mem_nil, or_false] at hflag
  rcases hflag with rfl | rfl
  all_goals
    rw [setFlag] at h
    split at h <;> cases h
    rfl

theorem recoloured_settle (r : Request) (pending : Pending) :
    Recoloured color noColor (settle r pending)
      (settle (r.withColours color noColor) pending) := by
  cases pending with
  | nothing => exact .ok rfl
  | fields values => exact .bind_same fun _ => .ok rfl
  | option option value =>
    cases value with
    | none => exact .refuse _ _
    | some value => exact recoloured_setValue r option value

/-- Fields can be looked at in two goes. -/
theorem settle_fields_append (r : Request) (before values : List String) :
    settle r (.fields (before ++ values)) =
      settle r (.fields before) >>= fun r' => settle r' (.fields values) := by
  simp only [settle, List.mapM_append, bind_assoc, pure_bind, List.append_assoc]

/-! ## Readers of arguments -/

variable (color noColor) in
/-- The second reader has come as far as the first one, with these colours.  As it has not met the
options for colours, it may still put off what the first one has looked at. -/
inductive Progress.Trails : Progress → Progress → Prop where
  | level (r : Request) (pending : Pending) :
      Trails (r, pending) (r.withColours color noColor, pending)
  | looked {r : Request} {p' : Progress}
      (hlater : settle p'.1 p'.2 = .ok (r.withColours color noColor)) : Trails (r, .nothing) p'
  | joined {r r' : Request} {before : List String} (values : List String)
      (hlater : settle r' (.fields before) = .ok (r.withColours color noColor)) :
      Trails (r, .fields values) (r', .fields (before ++ values))

variable {p p' : Progress} {argument : String}

/-- What has been put off makes no difference once it is looked at. -/
theorem Progress.Trails.settle (h : Trails color noColor p p') :
    Recoloured color noColor (settle p.1 p.2) (settle p'.1 p'.2) := by
  cases h with
  | level r pending => exact recoloured_settle r pending
  | looked hlater =>
    rw [hlater]
    exact .ok rfl
  | @joined r r' before values hlater =>
    rw [settle_fields_append, hlater]
    exact recoloured_settle r (.fields values)

variable (color noColor) in
/-- Where the first reader goes on, the second one goes on behind it. -/
abbrev Trailing (x y : Step Progress) : Prop := Follows (Progress.Trails color noColor) x y

theorem trailing_waiting {x y : Step Request} (h : Recoloured color noColor x y)
    (pending : Pending) :
    Trailing color noColor (x >>= fun r => pure (r, pending))
      (y >>= fun r => pure (r, pending)) := by
  refine .bind h ?_
  rintro r _ rfl
  exact .ok (.level r pending)

theorem readLong_trailing (h : p.Trails color noColor p') {text : List Char}
    (hargument : argument.toList = '-' :: '-' :: text) (hcolour : argument ∉ colourOptions) :
    Trailing color noColor (readLong argument text p) (readLong argument text p') := by
  unfold readLong
  dsimp only
  split
  · exact .refuse _ _
  · exact trailing_waiting h.settle _
  · rename_i option value _ _
    refine .bind h.settle ?_
    rintro r _ rfl
    exact trailing_waiting (recoloured_setValue r option _) _
  · rename_i flag hname hattached
    have hwhole : text.takeWhile (· ≠ '=') = text := by
      rcases attached_cases text with ⟨-, hwhole⟩ | ⟨value, hvalue, -⟩
      · exact hwhole
      · rw [hvalue] at hattached
        cases hattached
    have hflag : flag ∉ colourFlags := by
      intro hmem
      have hsame : flag.argument = argument := by
        rw [argument_of_optionOfName? hname, hwhole]
        exact ((eq_long_iff hargument _).mpr rfl).symm
      exact hcolour (hsame ▸ List.mem_map_of_mem hmem)
    refine .bind h.settle ?_
    rintro r _ rfl
    exact trailing_waiting (recoloured_setFlag r hflag) _
  · exact .refuse _ _

theorem readLetters_trailing (h : p.Trails color noColor p') (letters : List Char) :
    Trailing color noColor (readLetters argument letters p)
      (readLetters argument letters p') := by
  induction letters generalizing p p' with
  | nil => exact .ok h
  | cons c cs ih =>
    unfold readLetters
    split
    · exact .refuse _ _
    · rename_i flag hletter
      refine .bind h.settle ?_
      rintro r _ rfl
      refine .bind (recoloured_setFlag r (optionOfLetter?_colour hletter)) ?_
      rintro r _ rfl
      exact ih (.level r .nothing)
    · rename_i option _
      split
      · exact trailing_waiting h.settle _
      all_goals
        refine .bind h.settle ?_
        rintro r _ rfl
        exact trailing_waiting (recoloured_setValue r option _) _

/-- A field joins the fields that have been put off, which may be more for the second reader. -/
theorem readFieldArgument_trailing (h : p.Trails color noColor p') (argument : String) :
    Trailing color noColor (readFieldArgument argument p) (readFieldArgument argument p') := by
  cases h with
  | level r pending =>
    cases pending with
    | fields values => exact .ok (.level r _)
    | nothing | option => exact trailing_waiting (recoloured_settle r _) _
  | @looked r p' hlater =>
    obtain ⟨r', pending⟩ := p'
    cases pending with
    | fields before => exact .ok (.joined [argument] hlater)
    | nothing | option => exact trailing_waiting (Progress.Trails.looked hlater).settle _
  | joined values hlater =>
    have hvalues := Progress.Trails.joined (values ++ [argument]) hlater
    rw [← List.append_assoc] at hvalues
    exact .ok hvalues

/-- The value of an option never stands behind an option for colours. -/
theorem readPlain_trailing (h : p.Trails color noColor p') (argument : String) :
    Trailing color noColor (readPlain argument p) (readPlain argument p') := by
  have hfield := readFieldArgument_trailing h argument
  cases h with
  | level r pending =>
    cases pending with
    | nothing | fields => exact hfield
    | option option value =>
      cases value with
      | none => exact .ok (.level r _)
      | some value => exact hfield
  | @looked r p' hlater =>
    obtain ⟨r', pending⟩ := p'
    cases pending with
    | nothing | fields => exact hfield
    | option option value =>
      cases value with
      | none => cases hlater
      | some value => exact hfield
  | joined values hlater => exact hfield

theorem readFrom_fieldsOnly_trailing (h : p.Trails color noColor p') (arguments : List String) :
    Trailing color noColor (readFrom arguments true p) (readFrom arguments true p') := by
  induction arguments generalizing p p' with
  | nil => exact .ok h
  | cons argument rest ih =>
    exact .bind (readFieldArgument_trailing h argument) fun _ _ hnext => ih hnext

/-- An option for colours has what is put off looked at, and then it changes colours. -/
theorem readFrom_colourOption {option : String} (hoption : option ∈ colourOptions)
    {rest : List String} {q : Progress} (h : readFrom (option :: rest) false p = .ok q) :
    ∃ flag ∈ colourFlags, ∃ r r', settle p.1 p.2 = .ok r ∧ setFlag r flag = .ok r' ∧
      readFrom rest false (r', .nothing) = .ok q := by
  have hflag : ∃ flag ∈ colourFlags, readFrom (option :: rest) false p =
      settle p.1 p.2 >>= fun r => (setFlag r flag >>= fun r' => pure (r', Pending.nothing)) >>=
        readFrom rest false := by
    obtain ⟨flag, hflag, rfl⟩ := List.mem_map.mp hoption
    refine ⟨flag, hflag, ?_⟩
    simp only [colourFlags, List.mem_cons, List.not_mem_nil, or_false] at hflag
    rcases hflag with rfl | rfl <;> exact bind_assoc _ _ _
  obtain ⟨flag, hflag, hread⟩ := hflag
  rw [hread] at h
  obtain ⟨r, hsettle, h⟩ := Step.bind_eq_ok.mp h
  obtain ⟨_, hnext, h⟩ := Step.bind_eq_ok.mp h
  obtain ⟨r', hset, hdone⟩ := Step.bind_eq_ok.mp hnext
  cases hdone
  exact ⟨flag, hflag, r, r', hsettle, hset, h⟩

/-- The second reader is not given the options for colours. -/
theorem readFrom_trailing (h : p.Trails color noColor p') (arguments : List String) :
    Trailing color noColor (readFrom arguments false p)
      (readFrom (withoutColours arguments) false p') := by
  induction arguments generalizing p p' with
  | nil => exact .ok h
  | cons argument rest ih =>
    rw [withoutColours]
    split
    · rename_i hmark
      subst hmark
      exact readFrom_fieldsOnly_trailing h rest
    · rename_i hmark
      split
      · rename_i hcolour
        -- the first reader alone steps; what it looks at is still put off by the second one
        intro q hq
        obtain ⟨flag, hflag, r, r₁, hsettle, hset, hq⟩ := readFrom_colourOption hcolour hq
        obtain ⟨_, hlater, rfl⟩ := h.settle hsettle
        rw [← withColours_of_setFlag hflag hset] at hlater
        exact ih (.looked hlater) hq
      · rename_i hcolour
        unfold readFrom
        split
        · rename_i hhyphens
          exact absurd (String.toList_inj.mp hhyphens) hmark
        · rename_i text hhyphens
          exact .bind (readLong_trailing h hhyphens hcolour) fun _ _ hnext => ih hnext
        · exact .bind (readLetters_trailing h _) fun _ _ hnext => ih hnext
        · exact .bind (readPlain_trailing h argument) fun _ _ hnext => ih hnext

/-- Some options ask for colours and the other arguments for the same request as with all options
for colours. -/
theorem ofArguments_withoutColours {arguments : List String}
    (h : Request.ofArguments arguments = .ok r) (options : List String)
    (hoptions : ∀ rest, readFrom (options ++ rest) false ({}, .nothing) =
      readFrom rest false (Request.withColours {} color noColor, .nothing)) :
    Request.ofArguments (options ++ withoutColours arguments) =
      .ok (r.withColours color noColor) := by
  have hfollows : Recoloured color noColor (Request.ofArguments arguments)
      (Request.ofArguments (options ++ withoutColours arguments)) := by
    unfold Request.ofArguments
    rw [hoptions]
    refine .bind (readFrom_trailing (.level {} .nothing) arguments) fun q q' hq => ?_
    refine .bind hq.settle ?_
    rintro r _ rfl
    exact .refuse_if (.ok rfl)
  obtain ⟨_, hread, rfl⟩ := hfollows h
  exact hread

end FieldGuide.Console
