import FieldGuide.Proofs.Steps
import FieldGuide.Proofs.SmallLetters
set_option autoImplicit false

/-!
# Where control characters come from

A control character stands below the space.  The names of rules, the wording of errors and the
figures of numbers have none, so that one that is found in a text made of a rule has been in the
rule: its parameters and the messages of its errors lack every control character that it lacks.
-/

namespace FieldGuide

/-! ## Texts without a character -/

namespace Text

/-- The character does not occur in the text. -/
def Lacks (c : Char) (s : String) : Prop := c ∉ s.toList

instance (c : Char) (s : String) : Decidable (Lacks c s) := inferInstanceAs (Decidable (_ ∉ _))

/-- The text has no control characters. -/
def IsPrintable (cs : List Char) : Prop := ∀ c ∈ cs, ' ' ≤ c

instance (cs : List Char) : Decidable (IsPrintable cs) := List.decidableBAll (' ' ≤ ·) cs

variable {c : Char} {s t : String} {cs ds : List Char}

theorem lacks_append : Lacks c (s ++ t) ↔ Lacks c s ∧ Lacks c t := by
  simp [Lacks]

theorem lacks_ofList : Lacks c (String.ofList cs) ↔ c ∉ cs := by
  rw [Lacks, String.toList_ofList]

theorem Lacks.of_subset (h : Lacks c s) (hsubset : t.toList ⊆ s.toList) : Lacks c t := by
  intro hmem
  exact h (hsubset hmem)

theorem mem_intercalate {sep : List Char} {xs : List (List Char)} {c : Char}
    (h : c ∈ sep.intercalate xs) : c ∈ sep ∨ ∃ x ∈ xs, c ∈ x := by
  induction xs with
  | nil => cases h
  | cons x xs ih =>
    cases xs with
    | nil =>
      rw [List.intercalate_singleton] at h
      exact .inr ⟨x, List.mem_cons_self, h⟩
    | cons y ys =>
      rw [List.intercalate_cons_cons, List.mem_append, List.mem_append] at h
      rcases h with (hx | hsep) | hrest
      · exact .inr ⟨x, List.mem_cons_self, hx⟩
      · exact .inl hsep
      · exact (ih hrest).imp_right fun ⟨z, hz, hc⟩ => ⟨z, List.mem_cons_of_mem x hz, hc⟩

theorem mem_intercalate_of_mem {sep x : List Char} {xs : List (List Char)} {c : Char}
    (hx : x ∈ xs) (hc : c ∈ x) : c ∈ sep.intercalate xs := by
  induction xs with
  | nil => cases hx
  | cons y ys ih =>
    cases ys with
    | nil =>
      rw [List.intercalate_singleton, ← List.mem_singleton.mp hx]
      exact hc
    | cons z zs =>
      rw [List.intercalate_cons_cons]
      rcases List.mem_cons.mp hx with rfl | hmem
      · exact List.mem_append_left _ (List.mem_append_left _ hc)
      · exact List.mem_append_right _ (ih hmem)

theorem lacks_intercalate {sep : String} {texts : List String} (hsep : Lacks c sep)
    (htexts : ∀ text ∈ texts, Lacks c text) : Lacks c (sep.intercalate texts) := by
  intro hmem
  rw [String.toList_intercalate] at hmem
  rcases mem_intercalate hmem with hsep' | ⟨x, hx, hc⟩
  · exact hsep hsep'
  · obtain ⟨text, htext, rfl⟩ := List.mem_map.mp hx
    exact htexts text htext hc

/-! ## Printable texts -/

@[simp] theorem isPrintable_nil : IsPrintable [] := by simp [IsPrintable]

@[simp] theorem isPrintable_cons : IsPrintable (c :: cs) ↔ ' ' ≤ c ∧ IsPrintable cs :=
  List.forall_mem_cons

@[simp] theorem isPrintable_append : IsPrintable (cs ++ ds) ↔ IsPrintable cs ∧ IsPrintable ds :=
  List.forall_mem_append

theorem IsPrintable.notMem (h : IsPrintable cs) (hc : c < ' ') : c ∉ cs := by
  intro hmem
  exact Char.not_lt.mpr (h c hmem) hc

theorem IsPrintable.lacks (h : IsPrintable s.toList) (hc : c < ' ') : Lacks c s := h.notMem hc

/-- No byte of the text is that of a control character. -/
def hasPrintableBytes (s : String) : Bool := s.toByteArray.data.toList.all (32 ≤ ·.toNat)

/-- A control character is written as the byte of its own number, so that long tables of texts need
not be decoded. -/
theorem isPrintable_of_bytes (h : hasPrintableBytes s = true) : IsPrintable s.toList := by
  intro c hc
  by_contra hcontrol
  have hlow : c.val.toNat < 32 := Nat.lt_of_not_le hcontrol
  have hbyte : String.utf8EncodeChar c = [c.val.toUInt8] := by
    refine String.utf8EncodeChar_eq_singleton (Char.utf8Size_eq_one_iff.mpr ?_)
    exact Nat.le_trans (Nat.le_of_lt hlow) (by decide)
  have hmem : c.val.toUInt8 ∈ s.toByteArray.data.toList := by
    rw [← String.utf8Encode_toList, List.utf8Encode, List.toList_data_toByteArray]
    exact List.mem_flatMap.mpr ⟨c, hc, hbyte ▸ List.mem_singleton_self _⟩
  have hprintable := List.all_eq_true.mp h _ hmem
  rw [decide_eq_true_eq, UInt32.toNat_toUInt8] at hprintable
  omega

theorem isPrintable_of_isDigit (h : ∀ c ∈ cs, c.isDigit = true) : IsPrintable cs := by
  intro c hc
  have hdigit := h c hc
  simp only [Char.isDigit, Bool.and_eq_true, decide_eq_true_eq] at hdigit
  exact Char.le_trans (by decide : ' ' ≤ '0') hdigit.1

theorem isPrintable_toDigits {base n : Nat} (hbase : 1 < base) (hle : base ≤ 16) :
    IsPrintable (Nat.toDigits base n) := by
  have hfigure : ∀ k < 16, ' ' ≤ Nat.digitChar k := by decide
  induction n using Nat.strongRecOn with
  | ind n ih =>
    by_cases hsmall : n < base
    · rw [Nat.toDigits_of_lt_base hsmall, isPrintable_cons]
      exact ⟨hfigure n (Nat.lt_of_lt_of_le hsmall hle), isPrintable_nil⟩
    · have hlast : n % base < 16 := Nat.lt_of_lt_of_le (Nat.mod_lt n (by omega)) hle
      rw [Nat.toDigits_of_base_le hbase (Nat.le_of_not_lt hsmall), isPrintable_append,
        isPrintable_cons]
      exact ⟨ih (n / base) (Nat.div_lt_self (by omega) hbase), hfigure _ hlast, isPrintable_nil⟩

@[simp] theorem isPrintable_figures (n : Nat) : IsPrintable (Number.figures n) :=
  isPrintable_toDigits (by decide) (by decide)

theorem isPrintable_toString_nat (n : Nat) : IsPrintable (toString n).toList := by
  change IsPrintable (String.ofList (Nat.toDigits 10 n)).toList
  rw [String.toList_ofList]
  exact isPrintable_figures n

theorem isPrintable_toString_int (n : Int) : IsPrintable (toString n).toList := by
  cases n with
  | ofNat n => exact isPrintable_toString_nat n
  | negSucc n =>
    change IsPrintable ("-" ++ toString (n + 1)).toList
    rw [String.toList_append, isPrintable_append]
    exact ⟨by decide, isPrintable_toString_nat (n + 1)⟩

end Text

/-! ## Rules -/

namespace Row

theorem flatten_push (c : Char) (fields : List (List Char)) :
    (push c fields).flatten = c :: fields.flatten := by
  cases fields <;> rfl

/-- What a reader finds in a row it has taken from there, in order. -/
theorem flatten_fieldsFrom_sublist (place : Place) (cs : List Char) :
    (fieldsFrom place cs).flatten.Sublist cs := by
  induction cs generalizing place with
  | nil => cases place <;> exact .slnil
  | cons c cs ih =>
    have hskip (place : Place) : (fieldsFrom place cs).flatten.Sublist (c :: cs) :=
      (ih place).cons c
    have hpush (place : Place) :
        (push c (fieldsFrom place cs)).flatten.Sublist (c :: cs) := by
      rw [flatten_push]
      exact (ih place).cons_cons c
    have hend : ([[]] : List (List Char)).flatten.Sublist (c :: cs) := List.nil_sublist _
    cases place with
    | quoted =>
      rw [fieldsFrom]
      split
      · exact hskip _
      · exact hpush _
    | opening =>
      rw [fieldsFrom]
      split
      · exact hskip _
      · split
        · exact hskip _
        · split
          · exact hend
          · exact hpush _
    | closing =>
      rw [fieldsFrom]
      split
      · exact hpush _
      · split
        · exact hskip _
        · split
          · exact hend
          · exact hpush _
    | bare =>
      rw [fieldsFrom]
      split
      · exact hskip _
      · split
        · exact hend
        · exact hpush _

theorem firstRow_sublist (text : List Char) : (firstRow text).Sublist text := by
  have hmark : (dropMark text).Sublist text := by
    cases text with
    | nil => exact .slnil
    | cons c cs =>
      rw [dropMark]
      split
      · exact (List.Sublist.refl cs).cons c
      · exact .refl _
  exact (List.dropWhile_sublist _).trans hmark

theorem subset_of_mem_read {field text : List Char} (h : field ∈ read text) : field ⊆ text := by
  have hrow : (read text).flatten.Sublist (firstRow text) := by
    unfold read
    split
    · exact List.nil_sublist _
    · exact flatten_fieldsFrom_sublist .opening _
  intro c hc
  exact (hrow.trans (firstRow_sublist text)).subset (List.mem_flatten_of_mem h hc)

end Row

namespace Rule

theorem subset_of_cutAtColon? {text before after : List Char}
    (h : cutAtColon? text = some (before, after)) : before ⊆ text ∧ after ⊆ text := by
  unfold cutAtColon? at h
  split at h
  · cases h
  · rename_i colon rest hback
    cases h
    have hsub : (colon :: after).Sublist text := hback ▸ List.dropWhile_sublist _
    exact ⟨(List.takeWhile_sublist _).subset, fun c hc =>
      hsub.subset (List.mem_cons_of_mem colon hc)⟩

/-- The parameters of a rule have been taken from it. -/
theorem subset_of_mem_parameters {raw p : String} (hp : p ∈ (ofText raw).parameters) :
    p.toList ⊆ raw.toList := by
  unfold ofText at hp
  split at hp
  · cases hp
  · rename_i before after hcut
    have hafter := (subset_of_cutAtColon? hcut).2
    dsimp only at hp
    unfold parametersOfText at hp
    split at hp
    · rw [List.mem_singleton.mp hp, String.toList_ofList]
      exact hafter
    · obtain ⟨field, hfield, rfl⟩ := List.mem_map.mp hp
      rw [String.toList_ofList]
      exact List.Subset.trans (Row.subset_of_mem_read hfield) hafter

end Rule

/-- The rules between strokes have been taken from the text. -/
theorem RuleText.subset_of_mem_piped {text rule : String}
    (h : rule ∈ (RuleText.piped text).rules) : rule.toList ⊆ text.toList := by
  obtain ⟨segment, hsegment, rfl⟩ := List.mem_map.mp (List.mem_filter.mp h).1
  intro c hc
  rw [String.toList_ofList] at hc
  have hjoined := @Text.mem_intercalate_of_mem ['|'] _ _ _ hsegment hc
  rwa [List.intercalate_splitOn] at hjoined

theorem Kind.isPrintable_name (k : Kind) : Text.IsPrintable k.name.toList := by
  cases k <;> decide

/-! ## Errors -/

section

open Text

variable {c : Char}

/-- An error shows the name of its rule and its values, in printable words. -/
theorem RuleError.lacks_message (hc : c < ' ') {error : RuleError} (hrule : Lacks c error.rule)
    (hvalues : ∀ value ∈ error.values, Lacks c value) : Lacks c error.message := by
  have hwords {words : String} (h : IsPrintable words.toList) : Lacks c words := h.lacks hc
  have hticked {text : String} (htext : Lacks c text) : Lacks c (ticked text) :=
    lacks_append.mpr ⟨lacks_append.mpr ⟨hwords (by decide), htext⟩, hwords (by decide)⟩
  have hname := hticked hrule
  cases error with
  | missingParameter rule index =>
    simp only [message, lacks_append]
    exact ⟨⟨⟨hwords (by decide), hname⟩, hwords (by decide)⟩,
      hwords (isPrintable_toString_nat index)⟩
  | invalidNumber rule value =>
    have hvalue := hticked (hvalues value (List.mem_singleton_self value))
    simp only [message, lacks_append]
    exact ⟨⟨⟨hwords (by decide), hname⟩, hwords (by decide)⟩, hvalue⟩
  | invalidDate rule value =>
    have hvalue := hticked (hvalues value (List.mem_singleton_self value))
    simp only [message, lacks_append]
    exact ⟨⟨⟨hwords (by decide), hname⟩, hwords (by decide)⟩, hvalue⟩
  | emptyList rule =>
    simp only [message, lacks_append]
    exact ⟨⟨hwords (by decide), hname⟩, hwords (by decide)⟩

variable {templates : Templates} {setting : Setting} {field : String}

/-- The errors of a rule show nothing but its name, its parameters and numbers. -/
theorem lacks_message_of_apply (hc : c < ' ') {k : Kind} {raw : String} {e : Entry}
    {s s' : Stream} {a : Application}
    (h : (k.apply templates setting field (Rule.canonical raw).parameters e).run s =
      .ok (a, s'))
    (hraw : Lacks c raw) : ∀ error ∈ a.dropped, Lacks c error.message := by
  intro error herror
  obtain ⟨hrule, hvalues⟩ := Kind.tellsOf_of_apply h herror
  refine RuleError.lacks_message hc ?_ ?_
  · rw [hrule]
    exact k.isPrintable_name.lacks hc
  · intro value hvalue
    rcases hvalues value hvalue with hparameter | ⟨n, rfl⟩
    · exact hraw.of_subset (Rule.subset_of_mem_parameters hparameter)
    · exact (isPrintable_toString_int n).lacks hc

end

end FieldGuide
