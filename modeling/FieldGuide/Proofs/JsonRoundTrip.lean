import Mathlib.Tactic.SplitIfs
import FieldGuide.Proofs.Digits
import FieldGuide.Proofs.JsonReading
set_option autoImplicit false

/-!
# Written JSON reads back

Whatever is written in either layout is read as the value that it was written from.  The proof goes
by the parts of a value: a character of a string, a run of figures, and then values, items and
members together, each in front of an arbitrary rest that cannot be taken for a part of it.
-/

namespace FieldGuide.Json

/-! ## Blanks -/

theorem skipBlanks_of_not_isBlank {c : Char} (h : isBlank c = false) (cs : List Char) :
    skipBlanks (c :: cs) = c :: cs := by
  simp [skipBlanks, h]

theorem isBlank_of_mem_lead {layout : Layout} {depth : Nat} {c : Char}
    (h : c ∈ layout.lead depth) : isBlank c = true := by
  cases layout with
  | compact => cases h
  | pretty =>
    rcases List.mem_cons.mp h with rfl | hspace
    · decide
    · rw [List.eq_of_mem_replicate hspace]
      decide

/-- What stands in front of an item is skipped. -/
theorem skipBlanks_lead (layout : Layout) (depth : Nat) (cs : List Char) :
    skipBlanks (layout.lead depth ++ cs) = skipBlanks cs :=
  List.dropWhile_append_of_pos fun _ => isBlank_of_mem_lead

theorem readToken_lead (token : Char) (layout : Layout) (depth : Nat) (cs : List Char) :
    readToken token (layout.lead depth ++ cs) = readToken token cs := by
  rw [readToken, skipBlanks_lead, readToken]

theorem readToken_self {token : Char} (h : isBlank token = false) (cs : List Char) :
    readToken token (token :: cs) = some cs := by
  rw [readToken, skipBlanks_of_not_isBlank h]
  exact if_pos rfl

theorem readToken_of_ne {token c : Char} (hblank : isBlank c = false) (hne : c ≠ token)
    (cs : List Char) : readToken token (c :: cs) = none := by
  rw [readToken, skipBlanks_of_not_isBlank hblank]
  exact if_neg hne

theorem readValue_lead (steps : Nat) (layout : Layout) (depth : Nat) (cs : List Char) :
    readValue steps (layout.lead depth ++ cs) = readValue steps cs := by
  cases steps with
  | zero => rw [readValue, readValue]
  | succ steps => rw [readValue, readValue, skipBlanks_lead]

/-! ## Strings -/

theorem hexValue?_hexDigit (n : Nat) : hexValue? (hexDigit n) = some (n % 16) := by
  have hdigits : ∀ m < 16, hexValue? (Nat.digitChar m) = some m := by decide
  exact hdigits (n % 16) (Nat.mod_lt n (by decide))

/-- In a string, the text is read as one piece, which stands for the character. -/
def StandsFor (text : List Char) (c : Char) : Prop :=
  ∃ piece,
    (∀ cs, readPieces (text ++ cs) = (readPieces cs).map fun p => (piece :: p.1, p.2)) ∧
      ∀ pieces, joinPieces (piece :: pieces) = (joinPieces pieces).map (c :: ·)

theorem standsFor_short {letter c : Char} (hletter : letter ≠ 'u')
    (h : shortEscape? letter = some c) : StandsFor ['\\', letter] c := by
  refine ⟨.char c, fun cs => ?_, fun pieces => by rw [joinPieces]⟩
  rw [List.cons_append, List.cons_append, List.nil_append, readPieces, h]
  · rfl
  · intro a b c d rest heq
    exact absurd heq hletter

/-- A code unit that is no half of a character stands for itself, whatever follows. -/
theorem joinPieces_code {c : Char} (hhigh : isHighSurrogate c.toNat = false)
    (hlow : isLowSurrogate c.toNat = false) (pieces : List Piece) :
    joinPieces (.code c.toNat :: pieces) = (joinPieces pieces).map (c :: ·) := by
  rcases pieces with _ | ⟨_ | m, pieces⟩ <;> simp [joinPieces, hhigh, hlow]

theorem standsFor_code {c : Char} (h : c.toNat < 0x20) :
    StandsFor ['\\', 'u', '0', '0', hexDigit (c.toNat / 16), hexDigit c.toNat] c := by
  have hcode : codeOfDigits? '0' '0' (hexDigit (c.toNat / 16)) (hexDigit c.toNat) =
      some c.toNat := by
    have hzero : hexValue? '0' = some 0 := by decide
    rw [codeOfDigits?, hexValue?_hexDigit, hexValue?_hexDigit, hzero]
    refine congrArg some ?_
    omega
  refine ⟨.code c.toNat, fun cs => ?_, fun pieces => ?_⟩
  · change readPieces ('\\' :: 'u' :: '0' :: '0' :: _ :: _ :: cs) = _
    rw [readPieces, hcode]
    rfl
  · have hhigh : isHighSurrogate c.toNat = false := by simp [isHighSurrogate]; omega
    have hlow : isLowSurrogate c.toNat = false := by simp [isLowSurrogate]; omega
    exact joinPieces_code hhigh hlow pieces

theorem standsFor_plain {c : Char} (hquote : c ≠ '"') (hslash : c ≠ '\\')
    (hlow : ¬ c.toNat < 0x20) : StandsFor [c] c := by
  refine ⟨.char c, fun cs => ?_, fun pieces => by rw [joinPieces]⟩
  rw [List.singleton_append, readPieces]
  · rw [if_neg]
    simp [hslash, hlow]
  · exact hquote
  · intro a b c d rest heq
    exact absurd heq hslash
  · intro a rest heq
    exact absurd heq hslash

/-- The written form of a character stands for it. -/
theorem standsFor_escape (c : Char) : StandsFor (escape c) c := by
  have hshort {n : Nat} {letter : Char} (h : c.toNat = n) (hletter : letter ≠ 'u')
      (hescape : shortEscape? letter = some (Char.ofNat n)) : StandsFor ['\\', letter] c := by
    rw [← c.ofNat_toNat, h]
    exact standsFor_short hletter hescape
  unfold escape
  split_ifs with hquote hslash hback htab hline hpage hreturn hlow
  · rw [hquote]
    exact standsFor_short (by decide) rfl
  · rw [hslash]
    exact standsFor_short (by decide) rfl
  · exact hshort hback (by decide) rfl
  · exact hshort htab (by decide) rfl
  · exact hshort hline (by decide) rfl
  · exact hshort hpage (by decide) rfl
  · exact hshort hreturn (by decide) rfl
  · exact standsFor_code hlow
  · exact standsFor_plain hquote hslash hlow

theorem readCharacters_of_standsFor {text : List Char} {c : Char} (h : StandsFor text c)
    (cs : List Char) :
    readCharacters (text ++ cs) = (readCharacters cs).map fun p => (c :: p.1, p.2) := by
  obtain ⟨piece, hread, hjoin⟩ := h
  unfold readCharacters
  rw [hread]
  rcases readPieces cs with _ | ⟨pieces, rest⟩
  · rfl
  · simp only [Option.map_some, Option.bind_eq_bind, Option.bind_some, hjoin, Option.map_map]
    rfl

/-- A written string reads back. -/
theorem readString_flatMap_escape (s : String) (rest : List Char) :
    readString (s.toList.flatMap escape ++ '"' :: rest) = some (s, rest) := by
  have hread (cs : List Char) :
      readCharacters (cs.flatMap escape ++ '"' :: rest) = some (cs, rest) := by
    induction cs with
    | nil => rfl
    | cons c cs ih =>
      rw [List.flatMap_cons, List.append_assoc, readCharacters_of_standsFor (standsFor_escape c),
        ih]
      rfl
  rw [readString, hread, Option.map_some, String.ofList_toList]

/-! ## Numbers -/

/-- A character that could go on with a number. -/
def continuesNumber (c : Char) : Bool := c.isDigit || c == '.' || c == 'e' || c == 'E'

/-- The text behind a number does not go on with it. -/
def Ends (rest : List Char) : Prop := ∀ c cs, rest = c :: cs → continuesNumber c = false

theorem ends_cons {c : Char} (h : continuesNumber c = false) (cs : List Char) : Ends (c :: cs) := by
  rintro _ _ ⟨⟩
  exact h

theorem Ends.endsFigures {rest : List Char} (hrest : Ends rest) : Number.EndsFigures rest := by
  cases rest with
  | nil => exact Number.endsFigures_nil
  | cons c cs =>
    have hends := hrest c cs rfl
    simp only [continuesNumber, Bool.or_eq_false_iff] at hends
    exact Number.endsFigures_cons hends.1.1.1 cs

theorem readFigures_figures (n : Nat) {rest : List Char} (hrest : Ends rest) :
    readFigures (Number.figures n ++ rest) = some (Number.figures n, rest) := by
  have hdigits : ∀ c ∈ Number.figures n, c.isDigit = true := fun _ => Number.isDigit_of_mem_figures
  rw [readFigures, Number.takeWhile_isDigit_append hdigits hrest.endsFigures,
    Number.dropWhile_isDigit_append hdigits hrest.endsFigures]
  obtain ⟨c, cs, hfigures, -⟩ := Number.exists_figures_eq_cons n
  rw [hfigures]

theorem readFraction_of_ends {rest : List Char} (hrest : Ends rest) :
    readFraction rest = some ([], rest) := by
  unfold readFraction
  split
  · cases hrest _ _ rfl
  · rfl

theorem readExponent_of_ends {rest : List Char} (hrest : Ends rest) :
    readExponent rest = some (0, rest) := by
  cases rest with
  | nil => rfl
  | cons c cs =>
    have hends := hrest c cs rfl
    rw [readExponent, if_neg]
    rintro (rfl | rfl) <;> cases hends

theorem readUnsigned_figures (n : Nat) {rest : List Char} (hrest : Ends rest) :
    readUnsigned (Number.figures n ++ rest) = some (n, rest) := by
  have hzero : ¬ ((Number.figures n).head? = some '0' ∧ 1 < (Number.figures n).length) := by
    rintro ⟨hhead, hlength⟩
    rw [Number.eq_zero_of_head?_figures hhead] at hlength
    exact absurd hlength (by decide)
  have hwhole : whole? (Number.figures n) [] 0 = some n := by
    simp [whole?, Number.ofFigures_figures]
  simp only [readUnsigned, readFigures_figures n hrest, readFraction_of_ends hrest,
    readExponent_of_ends hrest, hwhole, hzero, Option.bind_eq_bind, Option.bind_some, if_false]
  rfl

theorem readNumber_writeNumber (n : Int) {rest : List Char} (hrest : Ends rest) :
    readNumber (writeNumber n ++ rest) = some (n, rest) := by
  unfold writeNumber
  split
  · rename_i hneg
    have hvalue : -(n.natAbs : Int) = n := by omega
    rw [List.cons_append, readNumber, readUnsigned_figures _ hrest, Option.map_some, hvalue]
  · rename_i hnonneg
    have hvalue : (n.natAbs : Int) = n := by omega
    rw [readNumber, readUnsigned_figures _ hrest, Option.map_some, hvalue]
    intro cs heq
    obtain ⟨c, figures, hfigures, hdigit⟩ := Number.exists_figures_eq_cons n.natAbs
    rw [hfigures] at heq
    obtain ⟨rfl, -⟩ := List.cons.inj heq
    cases hdigit

theorem exists_writeNumber_eq_cons (n : Int) :
    ∃ c cs, writeNumber n = c :: cs ∧ (c = '-' ∨ c.isDigit = true) := by
  unfold writeNumber
  split
  · exact ⟨_, _, rfl, .inl rfl⟩
  · obtain ⟨c, cs, hfigures, hdigit⟩ := Number.exists_figures_eq_cons n.natAbs
    exact ⟨c, cs, hfigures, .inr hdigit⟩

/-! ## Values -/

theorem isBlank_of_isDigit {c : Char} (h : c.isDigit = true) : isBlank c = false := by
  simp only [isBlank, Bool.or_eq_false_iff, beq_eq_false_iff_ne]
  refine ⟨⟨⟨?_, ?_⟩, ?_⟩, ?_⟩ <;> rintro rfl <;> cases h

/-- The text of a value begins with a token, which ends no array. -/
theorem exists_writeAt_eq_cons (layout : Layout) (depth : Nat) (value : Json) :
    ∃ c cs, writeAt layout depth value = c :: cs ∧ isBlank c = false ∧ c ≠ ']' := by
  match value with
  | .null => exact ⟨_, _, rfl, by decide, by decide⟩
  | .bool true => exact ⟨_, _, rfl, by decide, by decide⟩
  | .bool false => exact ⟨_, _, rfl, by decide, by decide⟩
  | .number n =>
    obtain ⟨c, cs, hwritten, hc⟩ := exists_writeNumber_eq_cons n
    refine ⟨c, cs, by rw [writeAt, hwritten], ?_⟩
    rcases hc with rfl | hdigit
    · decide
    · refine ⟨isBlank_of_isDigit hdigit, ?_⟩
      rintro rfl
      cases hdigit
  | .string s => exact ⟨_, _, by rw [writeAt, writeString]; rfl, by decide, by decide⟩
  | .array [] => exact ⟨_, _, by rw [writeAt], by decide, by decide⟩
  | .array (item :: items) => exact ⟨_, _, by rw [writeAt]; rfl, by decide, by decide⟩
  | .object [] => exact ⟨_, _, by rw [writeAt], by decide, by decide⟩
  | .object ((name, value) :: members) =>
    exact ⟨_, _, by rw [writeAt]; rfl, by decide, by decide⟩

theorem readToken_bracket_writeAt (layout : Layout) (depth : Nat) (value : Json)
    (cs : List Char) : readToken ']' (writeAt layout depth value ++ cs) = none := by
  obtain ⟨c, cs', hwritten, hblank, hne⟩ := exists_writeAt_eq_cons layout depth value
  rw [hwritten]
  exact readToken_of_ne hblank hne _

/-- What stands between the colon behind a name and the value. -/
def Layout.gap : Layout → List Char
  | compact => []
  | pretty => [' ']

theorem readValue_gap (steps : Nat) (layout : Layout) (cs : List Char) :
    readValue steps (layout.gap ++ cs) = readValue steps cs := by
  cases layout with
  | compact => rfl
  | pretty => cases steps <;> rfl

theorem readName_writeString (layout : Layout) (depth : Nat) (name : String) (cs : List Char) :
    readName (layout.lead depth ++ (writeString name ++ (layout.colon ++ cs))) =
      some (name, layout.gap ++ cs) := by
  have hcolon : layout.colon = ':' :: layout.gap := by cases layout <;> rfl
  have hquoted : writeString name ++ (layout.colon ++ cs) =
      '"' :: (name.toList.flatMap escape ++ '"' :: (':' :: (layout.gap ++ cs))) := by
    simp [writeString, hcolon]
  rw [readName, readToken_lead, hquoted, readToken_self (by decide)]
  simp only [Option.bind_eq_bind, Option.bind_some, readString_flatMap_escape,
    readToken_self (show isBlank ':' = false by decide)]
  rfl

/-- What follows an item, or a member, does not go on with a number. -/
theorem ends_lead {layout : Layout} {depth : Nat} {c : Char} (h : continuesNumber c = false)
    (cs : List Char) : Ends (layout.lead depth ++ c :: cs) := by
  cases layout with
  | compact => exact ends_cons h cs
  | pretty => exact ends_cons (by decide) _

theorem ends_writeItems (layout : Layout) (depth : Nat) (items : List Json) (cs : List Char) :
    Ends (writeItems layout depth items ++ (layout.lead depth ++ ']' :: cs)) := by
  cases items with
  | nil =>
    rw [writeItems]
    exact ends_lead (by decide) cs
  | cons item items =>
    rw [writeItems]
    exact ends_cons (by decide) _

theorem ends_writeMembers (layout : Layout) (depth : Nat) (members : List (String × Json))
    (cs : List Char) :
    Ends (writeMembers layout depth members ++ (layout.lead depth ++ '\x7d' :: cs)) := by
  match members with
  | [] =>
    rw [writeMembers]
    exact ends_lead (by decide) cs
  | (name, value) :: members =>
    rw [writeMembers]
    exact ends_cons (by decide) _

theorem readValue_number (n : Int) (steps : Nat) {rest : List Char} (hrest : Ends rest) :
    readValue (steps + 1) (writeNumber n ++ rest) = some (.number n, rest) := by
  obtain ⟨c, cs, hwritten, hc⟩ := exists_writeNumber_eq_cons n
  have hblank : isBlank c = false := by
    rcases hc with rfl | hdigit
    · decide
    · exact isBlank_of_isDigit hdigit
  have hread := readNumber_writeNumber n hrest
  rw [hwritten, List.cons_append] at hread ⊢
  rw [readValue, skipBlanks_of_not_isBlank hblank]
  simp only [if_pos hc, hread, Option.map_some]

theorem readValue_array (steps : Nat) {cs : List Char} (h : readToken ']' cs = none) :
    readValue (steps + 1) ('[' :: cs) = (do
      let (item, rest) ← readValue steps cs
      let (items, rest) ← readItems steps rest
      return (.array (item :: items), rest)) := by
  have hblank : isBlank '[' = false := rfl
  rw [readValue, skipBlanks_of_not_isBlank hblank]
  simp [h]

theorem readValue_object (steps : Nat) {cs : List Char} (h : readToken '\x7d' cs = none) :
    readValue (steps + 1) ('\x7b' :: cs) = (do
      let (name, rest) ← readName cs
      let (value, rest) ← readValue steps rest
      let (members, rest) ← readMembers steps rest
      return (.object ((name, value) :: members), rest)) := by
  have hblank : isBlank '\x7b' = false := rfl
  rw [readValue, skipBlanks_of_not_isBlank hblank]
  simp [h]

theorem readItems_comma (steps : Nat) (cs : List Char) :
    readItems (steps + 1) (',' :: cs) = (do
      let (item, rest) ← readValue steps cs
      let (items, rest) ← readItems steps rest
      return (item :: items, rest)) := rfl

theorem readMembers_comma (steps : Nat) (cs : List Char) :
    readMembers (steps + 1) (',' :: cs) = (do
      let (name, rest) ← readName cs
      let (value, rest) ← readValue steps rest
      let (members, rest) ← readMembers steps rest
      return ((name, value) :: members, rest)) := rfl

mutual

/-- A written value is read in as many steps as it has characters, whatever follows. -/
theorem readValue_writeAt (layout : Layout) :
    ∀ (value : Json) (depth steps : Nat) (rest : List Char),
      (writeAt layout depth value).length ≤ steps → Ends rest →
        readValue steps (writeAt layout depth value ++ rest) = some (value, rest)
  | .null, depth, steps + 1, rest, _, _ => by rw [writeAt]; rfl
  | .bool true, depth, steps + 1, rest, _, _ => by rw [writeAt]; rfl
  | .bool false, depth, steps + 1, rest, _, _ => by rw [writeAt]; rfl
  | .number n, depth, steps + 1, rest, _, hrest => by
    rw [writeAt]
    exact readValue_number n steps hrest
  | .string s, depth, steps + 1, rest, _, _ => by
    have htext : writeAt layout depth (.string s) ++ rest =
        '"' :: (s.toList.flatMap escape ++ '"' :: rest) := by
      simp [writeAt, writeString]
    have hopen (cs : List Char) : readValue (steps + 1) ('"' :: cs) =
      (readString cs).map fun p => (.string p.1, p.2) := rfl
    rw [htext, hopen, readString_flatMap_escape, Option.map_some]
  | .array [], depth, steps + 1, rest, _, _ => by rw [writeAt]; rfl
  | .object [], depth, steps + 1, rest, _, _ => by rw [writeAt]; rfl
  | .array (item :: items), depth, steps + 1, rest, hsteps, _ => by
    have htext : writeAt layout depth (.array (item :: items)) ++ rest =
        '[' :: (layout.lead (depth + 1) ++ (writeAt layout (depth + 1) item ++
          (writeItems layout depth items ++ (layout.lead depth ++ ']' :: rest)))) := by
      simp [writeAt]
    have hlength : (writeAt layout (depth + 1) item).length +
        (writeItems layout depth items).length < steps := by
      simp only [writeAt, List.length_cons, List.length_append, List.length_nil] at hsteps
      omega
    have hitem := readValue_writeAt layout item (depth + 1) steps _ (by omega)
      (ends_writeItems layout depth items rest)
    have hitems := readItems_writeItems layout items depth steps rest (by omega)
    rw [htext, readValue_array steps (by rw [readToken_lead, readToken_bracket_writeAt]),
      readValue_lead, hitem]
    simp only [Option.bind_eq_bind, Option.bind_some, hitems]
    rfl
  | .object ((name, value) :: members), depth, steps + 1, rest, hsteps, _ => by
    have htext : writeAt layout depth (.object ((name, value) :: members)) ++ rest =
        '\x7b' :: (layout.lead (depth + 1) ++ (writeString name ++ (layout.colon ++
          (writeAt layout (depth + 1) value ++
            (writeMembers layout depth members ++ (layout.lead depth ++ '\x7d' :: rest)))))) := by
      simp [writeAt]
    have hlength : (writeAt layout (depth + 1) value).length +
        (writeMembers layout depth members).length < steps := by
      simp only [writeAt, List.length_cons, List.length_append, List.length_nil] at hsteps
      omega
    have hnonempty (cs : List Char) :
        readToken '\x7d' (layout.lead (depth + 1) ++ (writeString name ++ cs)) = none := by
      rw [readToken_lead, writeString]
      exact readToken_of_ne (by decide) (by decide) _
    have hvalue := readValue_writeAt layout value (depth + 1) steps _ (by omega)
      (ends_writeMembers layout depth members rest)
    have hmembers := readMembers_writeMembers layout members depth steps rest (by omega)
    rw [htext, readValue_object steps (hnonempty _), readName_writeString]
    simp only [Option.bind_eq_bind, Option.bind_some, readValue_gap, hvalue, hmembers]
    rfl
  | value, depth, 0, rest, hsteps, _ => by
    obtain ⟨c, cs, hwritten, -⟩ := exists_writeAt_eq_cons layout depth value
    simp [hwritten] at hsteps

theorem readItems_writeItems (layout : Layout) :
    ∀ (items : List Json) (depth steps : Nat) (rest : List Char),
      (writeItems layout depth items).length < steps →
        readItems steps (writeItems layout depth items ++ (layout.lead depth ++ ']' :: rest)) =
          some (items, rest)
  | [], depth, steps + 1, rest, _ => by
    rw [writeItems, List.nil_append, readItems, skipBlanks_lead]
    rfl
  | item :: items, depth, steps + 1, rest, hsteps => by
    have htext : writeItems layout depth (item :: items) ++ (layout.lead depth ++ ']' :: rest) =
        ',' :: (layout.lead (depth + 1) ++ (writeAt layout (depth + 1) item ++
          (writeItems layout depth items ++ (layout.lead depth ++ ']' :: rest)))) := by
      simp [writeItems]
    have hlength : (writeAt layout (depth + 1) item).length +
        (writeItems layout depth items).length < steps := by
      simp only [writeItems, List.length_cons, List.length_append] at hsteps
      omega
    have hitem := readValue_writeAt layout item (depth + 1) steps _ (by omega)
      (ends_writeItems layout depth items rest)
    have hitems := readItems_writeItems layout items depth steps rest (by omega)
    rw [htext, readItems_comma, readValue_lead, hitem]
    simp only [Option.bind_eq_bind, Option.bind_some, hitems]
    rfl

theorem readMembers_writeMembers (layout : Layout) :
    ∀ (members : List (String × Json)) (depth steps : Nat) (rest : List Char),
      (writeMembers layout depth members).length < steps →
        readMembers steps
            (writeMembers layout depth members ++ (layout.lead depth ++ '\x7d' :: rest)) =
          some (members, rest)
  | [], depth, steps + 1, rest, _ => by
    rw [writeMembers, List.nil_append, readMembers, skipBlanks_lead]
    rfl
  | (name, value) :: members, depth, steps + 1, rest, hsteps => by
    have htext : writeMembers layout depth ((name, value) :: members) ++
          (layout.lead depth ++ '\x7d' :: rest) =
        ',' :: (layout.lead (depth + 1) ++ (writeString name ++ (layout.colon ++
          (writeAt layout (depth + 1) value ++
            (writeMembers layout depth members ++ (layout.lead depth ++ '\x7d' :: rest)))))) := by
      simp [writeMembers]
    have hlength : (writeAt layout (depth + 1) value).length +
        (writeMembers layout depth members).length < steps := by
      simp only [writeMembers, List.length_cons, List.length_append] at hsteps
      omega
    have hvalue := readValue_writeAt layout value (depth + 1) steps _ (by omega)
      (ends_writeMembers layout depth members rest)
    have hmembers := readMembers_writeMembers layout members depth steps rest (by omega)
    rw [htext, readMembers_comma, readName_writeString]
    simp only [Option.bind_eq_bind, Option.bind_some, readValue_gap, hvalue, hmembers]
    rfl

end

/-! ## Texts -/

theorem ends_of_isBlank {rest : List Char} (h : ∀ c ∈ rest, isBlank c = true) : Ends rest := by
  rintro c cs rfl
  have hblank := h c List.mem_cons_self
  simp only [isBlank, Bool.or_eq_true, beq_iff_eq] at hblank
  rcases hblank with ((rfl | rfl) | rfl) | rfl <;> decide

/-- The text of a value, with nothing but blanks behind it, is read as the value. -/
theorem read?_of_toList {text : String} {layout : Layout} {value : Json} {blanks : List Char}
    (htext : text.toList = writeAt layout 0 value ++ blanks)
    (hblanks : ∀ c ∈ blanks, isBlank c = true) : read? text = some value := by
  have hread := readValue_writeAt layout value 0 text.toList.length blanks
    (by rw [htext, List.length_append]; omega) (ends_of_isBlank hblanks)
  have hrest : skipBlanks blanks = [] := by
    rw [← List.append_nil blanks]
    exact List.dropWhile_append_of_pos hblanks
  rw [← htext] at hread
  rw [read?, hread]
  exact if_pos hrest

theorem read?_write (layout : Layout) (value : Json) : read? (value.write layout) = some value :=
  read?_of_toList (by rw [write, String.toList_ofList, List.append_nil]) (by simp)

theorem read?_write_newline (layout : Layout) (value : Json) :
    read? (value.write layout ++ "\n") = some value := by
  have hblanks : ∀ c ∈ "\n".toList, isBlank c = true := by
    intro c hc
    obtain rfl : c = '\n' := by simpa using hc
    rfl
  exact read?_of_toList (by rw [String.toList_append, write, String.toList_ofList]) hblanks

end FieldGuide.Json
