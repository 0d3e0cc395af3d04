import Mathlib.Data.List.Forall2
import Mathlib.Data.List.TakeWhile
import FieldGuide.Console.Arguments
import FieldGuide.Proofs.Trimming
set_option autoImplicit false

/-!
# Which arguments are fields

Arguments may be mixed with options in many ways, but which of them are fields can be told from the
arguments alone.  When all arguments could be read, the fields of the request are these arguments in
their order, each split at its first equals sign, and JSON is asked for just if `--json` stands
among the options.
-/

namespace FieldGuide

variable {α β : Type}

theorem mapM_eq_ok {ε : Type} {f : α → Except ε β} {xs : List α} {ys : List β} :
    xs.mapM f = .ok ys ↔ List.Forall₂ (fun x y => f x = .ok y) xs ys := by
  induction xs generalizing ys with
  | nil => cases ys <;> simp [pure, Except.pure]
  | cons x xs ih =>
    rw [List.mapM_cons, List.forall₂_cons_left_iff]
    simp only [← ih]
    rcases f x with error | y
    · simp [bind, Except.bind]
    · rcases xs.mapM f with error | ys' <;>
        simp [bind, Except.bind, pure, Except.pure, eq_comm]

namespace Console

/-! ## Telling arguments apart -/

/-- The argument behind which all others are fields. -/
def fieldsMark : String := "--"

/-- An option: a hyphen with something behind it. -/
def isOption (argument : String) : Bool :=
  match argument.toList with
  | '-' :: _ :: _ => true
  | _ => false

/-- An option that takes the next argument for its value: a long name without an equals sign, or the
letter of the seed behind any letters for the log. -/
def expectsValue (argument : String) : Bool :=
  ["--seed", "--reference", "--dialect"].contains argument ||
    match argument.toList with
    | '-' :: letters => letters.dropWhile (· == 'v') == ['s']
    | _ => false

/-- The arguments that are fields, if the first one may be the value of an option before it. -/
def fieldArguments : (expected : Bool) → List String → List String
  | _, [] => []
  | expected, argument :: rest =>
    if argument = fieldsMark then rest
    else if isOption argument then fieldArguments (expectsValue argument) rest
    else if expected then fieldArguments false rest
    else argument :: fieldArguments false rest

/-- The argument asks for JSON. -/
def jsonOption : String := "--json"

/-- `--json` stands among the arguments in front of the mark. -/
def asksForJson (arguments : List String) : Bool :=
  (arguments.takeWhile (· ≠ fieldsMark)).contains jsonOption

/-- A field is split at its first equals sign, and its name is trimmed and not empty. -/
def SplitsInto (argument : String) (field : String × String) : Prop :=
  ∃ before after, argument.toList = before ++ '=' :: after ∧ '=' ∉ before ∧
    field.1.toList = Text.trim before ∧ field.1 ≠ "" ∧ field.2.toList = after

/-! ## Steps that succeed -/

theorem Step.bind_eq_ok {x : Step α} {f : α → Step β} {b : β} :
    (x >>= f) = .ok b ↔ ∃ a, x = .ok a ∧ f a = .ok b := by
  cases x <;> simp [bind, Except.bind]

theorem splitsInto_of_readField {argument : String} {field : String × String}
    (h : readField argument = .ok field) : SplitsInto argument field := by
  unfold readField at h
  dsimp only at h
  split at h
  · rename_i sign rules c name hrest hname
    cases h
    obtain rfl : sign = '=' := by
      have hstop := List.head?_dropWhile_not (· ≠ '=') argument.toList
      rw [hrest] at hstop
      simpa using hstop
    refine ⟨argument.toList.takeWhile (· ≠ '='), rules, ?_, ?_, ?_, ?_, String.toList_ofList⟩
    · rw [← hrest, List.takeWhile_append_dropWhile]
    · intro hmem
      simpa using List.all_eq_true.mp List.all_takeWhile _ hmem
    · exact String.toList_ofList
    · rw [hname]
      simp
  · cases h

/-- The name and the rules of a field have been taken from its argument. -/
theorem SplitsInto.subset {argument : String} {field : String × String}
    (h : SplitsInto argument field) :
    field.1.toList ⊆ argument.toList ∧ field.2.toList ⊆ argument.toList := by
  obtain ⟨before, after, hsplit, -, hname, -, hrules⟩ := h
  rw [hsplit, hname, hrules]
  constructor
  · exact List.Subset.trans (Text.trim_subset before) (List.subset_append_left _ _)
  · exact List.Subset.trans (List.subset_cons_self _ _) (List.subset_append_right _ _)

/-! ## What a step keeps -/

/-- Giving an option its value changes no field and does not ask for JSON. -/
theorem setValue_keeps {r r' : Request} {option : ValueOption} {value : String}
    (h : setValue r option value = .ok r') : r'.fields = r.fields ∧ r'.json = r.json := by
  cases option with
  | seed =>
    rw [setValue] at h
    split at h
    · cases h
    · cases h
      exact ⟨rfl, rfl⟩
  | reference =>
    rw [setValue] at h
    split at h
    · cases h
    · obtain ⟨m, -, h⟩ := Step.bind_eq_ok.mp h
      cases h
      exact ⟨rfl, rfl⟩
  | dialect =>
    rw [setValue] at h
    split at h
    · cases h
    · obtain ⟨dialect, -, h⟩ := Step.bind_eq_ok.mp h
      cases h
      exact ⟨rfl, rfl⟩

/-- Setting a flag changes no field and asks for JSON just if it is that flag. -/
theorem setFlag_keeps {r r' : Request} {flag : Flag} (h : setFlag r flag = .ok r') :
    r'.fields = r.fields ∧ r'.json = (r.json || flag == .json) := by
  cases flag with
  | json | color | noColor =>
    rw [setFlag] at h
    split at h <;> cases h
    simp
  | verbose =>
    cases h
    simp
  | help | version => cases h

/-- The fields that have been put off. -/
def Pending.fieldValues : Pending → List String
  | .fields values => values
  | _ => []

/-- An option waits for its value. -/
def Pending.waits : Pending → Bool
  | .option _ none => true
  | _ => false

/-- The arguments have been taken for fields: the first ones are fields of the request, and the
others have been put off. -/
def Progress.Took (p : Progress) (arguments : List String) : Prop :=
  ∃ looked, arguments = looked ++ p.2.fieldValues ∧ List.Forall₂ SplitsInto looked p.1.fields

/-- Between two points of the reading these arguments have been taken for fields, and JSON has been
asked for or not. -/
structure Progress.Reads (p p' : Progress) (arguments : List String) (json : Bool) : Prop where
  took : ∀ before, p.Took before → p'.Took (before ++ arguments)
  json : p'.1.json = (p.1.json || json)

variable {p p' p'' : Progress} {r r' : Request} {argument : String}

theorem Progress.Reads.refl (p : Progress) : p.Reads p [] false where
  took before h := by rwa [List.append_nil]
  json := (Bool.or_false _).symm

theorem Progress.Reads.trans {arguments arguments' : List String} {json json' : Bool}
    (h : p.Reads p' arguments json) (h' : p'.Reads p'' arguments' json') :
    p.Reads p'' (arguments ++ arguments') (json || json') where
  took before hbefore := by
    rw [← List.append_assoc]
    exact h'.took _ (h.took before hbefore)
  json := by rw [h'.json, h.json, Bool.or_assoc]

/-- Looking at what has been put off takes nothing more. -/
theorem reads_settle (h : settle p.1 p.2 = .ok r) : p.Reads (r, .nothing) [] false := by
  obtain ⟨request, pending⟩ := p
  cases pending with
  | nothing =>
    cases h
    exact .refl _
  | fields values =>
    obtain ⟨fields, hfields, h⟩ := Step.bind_eq_ok.mp h
    cases h
    refine ⟨?_, (Bool.or_false _).symm⟩
    rintro before ⟨looked, rfl, hlooked⟩
    refine ⟨looked ++ values, by simp [Pending.fieldValues], ?_⟩
    exact List.rel_append hlooked ((mapM_eq_ok.mp hfields).imp fun _ _ => splitsInto_of_readField)
  | option option value =>
    cases value with
    | none => cases h
    | some value =>
      obtain ⟨hfields, hjson⟩ := setValue_keeps h
      refine ⟨?_, by simpa using hjson⟩
      rintro before ⟨looked, rfl, hlooked⟩
      exact ⟨looked, by simp [Pending.fieldValues], hfields ▸ hlooked⟩

/-- An option with or without its value puts off no field. -/
theorem Progress.Reads.beside {arguments : List String} {json : Bool}
    (h : p.Reads (r, .nothing) arguments json) (option : ValueOption) (value : Option String) :
    p.Reads (r, .option option value) arguments json where
  took before hbefore := h.took before hbefore
  json := h.json

/-- Carrying out an option that changes no field takes no argument for one. -/
theorem reads_of_fields_eq {json : Bool} (hfields : r'.fields = r.fields)
    (hjson : r'.json = (r.json || json)) :
    Progress.Reads (r, .nothing) (r', .nothing) [] json where
  took before h := by
    obtain ⟨looked, hbefore, hlooked⟩ := h
    refine ⟨looked, ?_, ?_⟩
    · rw [List.append_nil]
      exact hbefore
    · rw [hfields]
      exact hlooked
  json := hjson

theorem reads_setValue {option : ValueOption} {value : String}
    (hsettle : settle p.1 p.2 = .ok r) (h : setValue r option value = .ok r') :
    p.Reads (r', .nothing) [] false := by
  obtain ⟨hfields, hjson⟩ := setValue_keeps h
  have hset : Progress.Reads (r, .nothing) (r', .nothing) [] false :=
    reads_of_fields_eq hfields (by rw [hjson, Bool.or_false])
  exact (reads_settle hsettle).trans hset

theorem reads_setFlag {flag : Flag} (hsettle : settle p.1 p.2 = .ok r)
    (h : setFlag r flag = .ok r') : p.Reads (r', .nothing) [] (flag == .json) := by
  obtain ⟨hfields, hjson⟩ := setFlag_keeps h
  exact (reads_settle hsettle).trans (reads_of_fields_eq hfields hjson)

/-! ## Long names -/

theorem optionOfName?_valued {name : String} {option : ValueOption}
    (h : optionOfName? name = some (.valued option)) :
    name ∈ ["seed", "reference", "dialect"] ∧ (name == "json") = false := by
  obtain ⟨front, back, hsplit, -⟩ := List.lookup_eq_some_iff.mp h
  have hmem : (name, OptionName.valued option) ∈ front ++ (name, .valued option) :: back := by simp
  rw [← hsplit] at hmem
  simp only [List.mem_cons, Prod.mk.injEq, reduceCtorEq, and_false, or_false,
    List.not_mem_nil] at hmem
  rcases hmem with ⟨rfl, -⟩ | ⟨rfl, -⟩ | ⟨rfl, -⟩ <;> decide

theorem optionOfName?_flag {name : String} {flag : Flag}
    (h : optionOfName? name = some (.flag flag)) :
    name ∉ ["seed", "reference", "dialect"] ∧ ((flag == .json) = (name == "json")) := by
  obtain ⟨front, back, hsplit, -⟩ := List.lookup_eq_some_iff.mp h
  have hmem : (name, OptionName.flag flag) ∈ front ++ (name, .flag flag) :: back := by simp
  rw [← hsplit] at hmem
  simp only [List.mem_cons, Prod.mk.injEq, reduceCtorEq, and_false, or_false, false_or,
    List.not_mem_nil, OptionName.flag.injEq] at hmem
  rcases hmem with ⟨rfl, rfl⟩ | ⟨rfl, rfl⟩ | ⟨rfl, rfl⟩ | ⟨rfl, rfl⟩ | ⟨rfl, rfl⟩ | ⟨rfl, rfl⟩ <;>
    decide

theorem eq_long_iff {text : List Char} (hargument : argument.toList = '-' :: '-' :: text)
    (name : String) : argument = "--" ++ name ↔ String.ofList text = name := by
  rw [← String.toList_inj, hargument, String.toList_append, ← String.toList_inj,
    String.toList_ofList]
  simp

theorem expectsValue_long {text : List Char} (hargument : argument.toList = '-' :: '-' :: text) :
    expectsValue argument = ["seed", "reference", "dialect"].contains (String.ofList text) := by
  have hname := eq_long_iff hargument
  have hseed : argument = "--seed" ↔ _ := hname "seed"
  have hreference : argument = "--reference" ↔ _ := hname "reference"
  have hdialect : argument = "--dialect" ↔ _ := hname "dialect"
  rw [expectsValue, hargument, Bool.eq_iff_iff]
  simp [hseed, hreference, hdialect]

theorem ofList_ne_of_sign {text : List Char} {name : String} (hsign : '=' ∈ text)
    (hname : '=' ∉ name.toList) : String.ofList text ≠ name := by
  rintro rfl
  exact hname (by rwa [String.toList_ofList])

/-- A long name without an equals sign is the whole text, and one with a sign has a value
attached. -/
theorem attached_cases (text : List Char) :
    ((text.dropWhile (· ≠ '=')).tail? = none ∧ text.takeWhile (· ≠ '=') = text) ∨
      ∃ value, (text.dropWhile (· ≠ '=')).tail? = some value ∧ '=' ∈ text := by
  have hsplit := List.takeWhile_append_dropWhile (p := (· ≠ '=')) (l := text)
  cases hback : text.dropWhile (· ≠ '=') with
  | nil =>
    rw [hback, List.append_nil] at hsplit
    exact .inl ⟨rfl, hsplit⟩
  | cons sign value =>
    refine .inr ⟨value, rfl, ?_⟩
    by_contra hmem
    have hnil : text.dropWhile (· ≠ '=') = [] := by
      refine List.dropWhile_eq_nil_iff.mpr fun c hc => ?_
      have hne : c ≠ '=' := fun heq => hmem (heq ▸ hc)
      simpa using hne
    rw [hback] at hnil
    cases hnil

theorem readLong_reads {text : List Char} (hargument : argument.toList = '-' :: '-' :: text)
    (h : readLong argument text p = .ok p') :
    p.Reads p' [] (argument == jsonOption) ∧ p'.2.waits = expectsValue argument := by
  have hjson : (argument == jsonOption) = (String.ofList text == "json") := by
    rw [Bool.eq_iff_iff, beq_iff_eq, beq_iff_eq]
    exact eq_long_iff hargument "json"
  rw [hjson, expectsValue_long hargument]
  unfold readLong at h
  dsimp only at h
  rcases attached_cases text with ⟨hattached, hfront⟩ | ⟨value, hattached, hsign⟩
  · rw [hattached, hfront] at h
    cases hoption : optionOfName? (String.ofList text) with
    | none =>
      rw [hoption] at h
      cases h
    | some option =>
      rw [hoption] at h
      cases option with
      | valued option =>
        obtain ⟨r, hsettle, h⟩ := Step.bind_eq_ok.mp h
        cases h
        obtain ⟨hname, hjson⟩ := optionOfName?_valued hoption
        rw [hjson, List.contains_iff_mem.mpr hname]
        exact ⟨(reads_settle hsettle).beside option none, rfl⟩
      | flag flag =>
        obtain ⟨r, hsettle, h⟩ := Step.bind_eq_ok.mp h
        obtain ⟨r', hset, h⟩ := Step.bind_eq_ok.mp h
        cases h
        obtain ⟨hname, hjson⟩ := optionOfName?_flag hoption
        have hvalued : ["seed", "reference", "dialect"].contains (String.ofList text) = false := by
          simpa using hname
        rw [hvalued, ← hjson]
        exact ⟨reads_setFlag hsettle hset, rfl⟩
  · rw [hattached] at h
    have hname : ["seed", "reference", "dialect"].contains (String.ofList text) = false := by
      simp [ofList_ne_of_sign hsign]
    have hjson : (String.ofList text == "json") = false :=
      beq_eq_false_iff_ne.mpr (ofList_ne_of_sign hsign (by decide))
    rw [hjson, hname]
    cases hoption : optionOfName? (String.ofList (text.takeWhile (· ≠ '='))) with
    | none =>
      rw [hoption] at h
      cases h
    | some option =>
      rw [hoption] at h
      cases option with
      | valued option =>
        obtain ⟨r, hsettle, h⟩ := Step.bind_eq_ok.mp h
        obtain ⟨r', hset, h⟩ := Step.bind_eq_ok.mp h
        cases h
        exact ⟨reads_setValue hsettle hset, rfl⟩
      | flag flag => cases h

/-! ## Letters -/

theorem optionOfLetter?_valued {c : Char} {option : ValueOption}
    (h : optionOfLetter? c = some (.valued option)) : c = 's' := by
  unfold optionOfLetter? at h
  split at h <;> cases h
  rfl

/-- A letter without a value is carried out only if it is the one for the log. -/
theorem setFlag_letter {c : Char} {flag : Flag} (hflag : optionOfLetter? c = some (.flag flag))
    (h : setFlag r flag = .ok r') : c = 'v' ∧ flag = .verbose := by
  unfold optionOfLetter? at hflag
  split at hflag <;> cases hflag
  · exact ⟨rfl, rfl⟩
  · cases h
  · cases h

theorem readLetters_reads {letters : List Char} (h : readLetters argument letters p = .ok p')
    (hwaits : letters = [] → p.2.waits = false) :
    p.Reads p' [] false ∧ p'.2.waits = (letters.dropWhile (· == 'v') == ['s']) := by
  induction letters generalizing p with
  | nil =>
    cases h
    exact ⟨.refl p', hwaits rfl⟩
  | cons c cs ih =>
    unfold readLetters at h
    split at h
    · cases h
    · rename_i flag hflag
      obtain ⟨r, hsettle, h⟩ := Step.bind_eq_ok.mp h
      obtain ⟨r', hset, hrest⟩ := Step.bind_eq_ok.mp h
      obtain ⟨rfl, rfl⟩ := setFlag_letter hflag hset
      obtain ⟨hreads, hletters⟩ := ih hrest fun _ => rfl
      exact ⟨(reads_setFlag hsettle hset).trans hreads, hletters⟩
    · rename_i option hoption
      obtain rfl := optionOfLetter?_valued hoption
      split at h
      · obtain ⟨r, hsettle, h⟩ := Step.bind_eq_ok.mp h
        cases h
        exact ⟨(reads_settle hsettle).beside option none, rfl⟩
      · obtain ⟨r, hsettle, h⟩ := Step.bind_eq_ok.mp h
        obtain ⟨r', hset, h⟩ := Step.bind_eq_ok.mp h
        cases h
        exact ⟨reads_setValue hsettle hset, rfl⟩
      · rename_i hne _
        obtain ⟨r, hsettle, h⟩ := Step.bind_eq_ok.mp h
        obtain ⟨r', hset, h⟩ := Step.bind_eq_ok.mp h
        cases h
        have hletters : ('s' :: cs == ['s']) = false := by simpa using hne
        exact ⟨reads_setValue hsettle hset, hletters.symm⟩

/-! ## Arguments that are no options -/

theorem readFieldArgument_reads (h : readFieldArgument argument p = .ok p') :
    p.Reads p' [argument] false ∧ p'.2.waits = false := by
  unfold readFieldArgument at h
  split at h
  · rename_i values hvalues
    cases h
    refine ⟨⟨?_, (Bool.or_false _).symm⟩, rfl⟩
    rintro before ⟨looked, rfl, hlooked⟩
    refine ⟨looked, ?_, hlooked⟩
    simp [hvalues, Pending.fieldValues]
  · obtain ⟨r, hsettle, h⟩ := Step.bind_eq_ok.mp h
    cases h
    have hjoin : Progress.Reads (r, .nothing) (r, .fields [argument]) [argument] false := by
      refine ⟨?_, (Bool.or_false _).symm⟩
      rintro before ⟨looked, rfl, hlooked⟩
      exact ⟨looked, by simp [Pending.fieldValues], hlooked⟩
    exact ⟨(reads_settle hsettle).trans hjoin, rfl⟩

/-- An argument that is no option is the value of an option that waits for it, or else a field. -/
theorem readPlain_reads (h : readPlain argument p = .ok p') :
    p.Reads p' (if p.2.waits then [] else [argument]) false ∧ p'.2.waits = false := by
  obtain ⟨request, pending⟩ := p
  unfold readPlain at h
  split at h
  · rename_i option hpending
    dsimp only at hpending
    subst hpending
    cases h
    refine ⟨⟨?_, (Bool.or_false _).symm⟩, rfl⟩
    rintro before ⟨looked, hbefore, hlooked⟩
    refine ⟨looked, ?_, hlooked⟩
    simpa [Pending.waits, Pending.fieldValues] using hbefore
  · rename_i hpending
    have hwaits : pending.waits = false := by
      unfold Pending.waits
      split
      · exact absurd rfl (hpending _)
      · rfl
    rw [hwaits]
    exact readFieldArgument_reads h

/-! ## All arguments -/

theorem readFrom_fieldsOnly {arguments : List String} (h : readFrom arguments true p = .ok p') :
    p.Reads p' arguments false := by
  induction arguments generalizing p with
  | nil =>
    cases h
    exact .refl p'
  | cons argument rest ih =>
    rw [readFrom] at h
    obtain ⟨next, hnext, h⟩ := Step.bind_eq_ok.mp h
    exact (readFieldArgument_reads hnext).1.trans (ih h)

theorem asksForJson_cons {rest : List String} (hmark : argument ≠ fieldsMark) :
    asksForJson (argument :: rest) = (argument == jsonOption || asksForJson rest) := by
  have htake : (argument :: rest).takeWhile (· ≠ fieldsMark) =
      argument :: rest.takeWhile (· ≠ fieldsMark) :=
    List.takeWhile_cons_of_pos (by simpa using hmark)
  rw [asksForJson, htake, List.contains_cons, BEq.comm, asksForJson]

theorem fieldArguments_option {expected : Bool} {rest : List String}
    (hmark : argument ≠ fieldsMark) (hoption : isOption argument = true) :
    fieldArguments expected (argument :: rest) = fieldArguments (expectsValue argument) rest := by
  rw [fieldArguments, if_neg hmark, if_pos hoption]

theorem fieldArguments_plain {expected : Bool} {rest : List String}
    (hmark : argument ≠ fieldsMark) (hoption : isOption argument = false) :
    fieldArguments expected (argument :: rest) =
      (if expected then [] else [argument]) ++ fieldArguments false rest := by
  rw [fieldArguments, if_neg hmark, hoption]
  cases expected <;> rfl

theorem ne_long_of_letters {c : Char} {cs : List Char} (hc : c ≠ '-')
    (hargument : argument.toList = '-' :: c :: cs) (name : String) : argument ≠ "--" ++ name := by
  rintro rfl
  have hsecond : '-' :: name.toList = c :: cs := by simpa using hargument
  exact hc (List.cons.inj hsecond).1.symm

theorem expectsValue_letters {c : Char} {cs : List Char} (hc : c ≠ '-')
    (hargument : argument.toList = '-' :: c :: cs) :
    expectsValue argument = ((c :: cs).dropWhile (· == 'v') == ['s']) := by
  have hne := ne_long_of_letters hc hargument
  have hseed : argument ≠ "--seed" := hne "seed"
  have hreference : argument ≠ "--reference" := hne "reference"
  have hdialect : argument ≠ "--dialect" := hne "dialect"
  simp [expectsValue, hargument, hseed, hreference, hdialect]

/-- Letters behind a hyphen are an option like a long name. -/
theorem readLetters_option {c : Char} {cs : List Char} (hc : c ≠ '-')
    (hargument : argument.toList = '-' :: c :: cs)
    (h : readLetters argument (c :: cs) p = .ok p') :
    p.Reads p' [] (argument == jsonOption) ∧ p'.2.waits = expectsValue argument := by
  have hjson : (argument == jsonOption) = false :=
    beq_eq_false_iff_ne.mpr (ne_long_of_letters hc hargument "json")
  rw [hjson, expectsValue_letters hc hargument]
  exact readLetters_reads h nofun

/-- An option and the arguments behind it. -/
theorem reads_option_cons {rest : List String} (hmark : argument ≠ fieldsMark)
    (hoption : isOption argument = true)
    (h : p.Reads p' [] (argument == jsonOption) ∧ p'.2.waits = expectsValue argument)
    (hrest : p'.Reads p'' (fieldArguments p'.2.waits rest) (asksForJson rest)) :
    p.Reads p'' (fieldArguments p.2.waits (argument :: rest)) (asksForJson (argument :: rest)) := by
  obtain ⟨hreads, hwaits⟩ := h
  rw [fieldArguments_option hmark hoption, asksForJson_cons hmark, ← hwaits]
  exact hreads.trans hrest

theorem readFrom_reads {arguments : List String} (h : readFrom arguments false p = .ok p') :
    p.Reads p' (fieldArguments p.2.waits arguments) (asksForJson arguments) := by
  induction arguments generalizing p with
  | nil =>
    cases h
    exact .refl p'
  | cons argument rest ih =>
    rw [readFrom] at h
    split at h
    · rename_i hargument
      obtain rfl : argument = fieldsMark := String.toList_inj.mp hargument
      have htaken : fieldArguments p.2.waits (fieldsMark :: rest) = rest := by
        rw [fieldArguments, if_pos rfl]
      have hjson : asksForJson (fieldsMark :: rest) = false := by
        simp [asksForJson]
      rw [htaken, hjson]
      exact readFrom_fieldsOnly h
    · rename_i text htext hargument
      obtain ⟨next, hnext, h⟩ := Step.bind_eq_ok.mp h
      have hmark : argument ≠ fieldsMark := by
        rintro rfl
        exact htext (by simpa [fieldsMark] using hargument)
      have hoption : isOption argument = true := by simp [isOption, hargument]
      exact reads_option_cons hmark hoption (readLong_reads hargument hnext) (ih h)
    · rename_i c cs _ hc hargument
      obtain ⟨next, hnext, h⟩ := Step.bind_eq_ok.mp h
      have hmark : argument ≠ fieldsMark := ne_long_of_letters hc hargument ""
      have hoption : isOption argument = true := by simp [isOption, hargument]
      exact reads_option_cons hmark hoption (readLetters_option hc hargument hnext) (ih h)
    · rename_i hnotMark hnotLong hnotLetters
      obtain ⟨next, hnext, h⟩ := Step.bind_eq_ok.mp h
      obtain ⟨hreads, hwaits⟩ := readPlain_reads hnext
      have hmark : argument ≠ fieldsMark := by
        rintro rfl
        exact hnotMark rfl
      have hoption : isOption argument = false := by
        unfold isOption
        split
        · rename_i hargument
          exact absurd hargument (hnotLetters _ _)
        · rfl
      have hjson : (argument == jsonOption) = false := by
        rw [beq_eq_false_iff_ne]
        rintro rfl
        exact hnotLong _ rfl
      have hrest := ih h
      rw [hwaits] at hrest
      rw [fieldArguments_plain hmark hoption, asksForJson_cons hmark, hjson]
      exact hreads.trans hrest

/-- When all arguments could be read, the fields of the request are the arguments that are fields,
and JSON has been asked for just if `--json` is among the options. -/
theorem fields_ofArguments {arguments : List String}
    (h : Request.ofArguments arguments = .ok r) :
    List.Forall₂ SplitsInto (fieldArguments false arguments) r.fields ∧
      r.json = asksForJson arguments := by
  obtain ⟨p, hread, h⟩ := Step.bind_eq_ok.mp h
  obtain ⟨settled, hsettle, h⟩ := Step.bind_eq_ok.mp h
  split at h
  · cases h
  · cases h
    have hreads := (readFrom_reads hread).trans (reads_settle hsettle)
    rw [List.append_nil, Bool.or_false] at hreads
    refine ⟨?_, by simpa using hreads.json⟩
    obtain ⟨looked, hlooked, hfields⟩ := hreads.took [] ⟨[], rfl, .nil⟩
    obtain rfl : fieldArguments false arguments = looked := by
      simpa [Pending.fieldValues, Pending.waits] using hlooked
    exact hfields

end Console

end FieldGuide
