import Mathlib.Data.List.Forall2
import FieldGuide.Text.LowerCase
import FieldGuide.Proofs.Trimming
set_option autoImplicit false

/-!
# Small letters

The lower-case form of a text has no capitals, so that taking it again changes nothing.  None of
its letters stands for a space or a colon that was not there before.  Both are read off the runs of
capitals: the small letters of a run lie clear of every run, and clear of spaces and colons.
-/

namespace FieldGuide.Text

/-! ## The letters of a run -/

namespace CaseRun

variable {r q : CaseRun} {n : Nat}

/-- The code point of the small letter of the first capital. -/
def smallFirst (r : CaseRun) : Nat := (r.first + r.shift).toNat

/-- The code point of the small letter of the last capital. -/
def smallLast (r : CaseRun) : Nat := (r.last + r.shift).toNat

/-- The small letters of the run are characters. -/
def IsProper (r : CaseRun) : Prop :=
  0 ≤ r.first + r.shift ∧
    (r.smallLast < 0xd800 ∨ 0xdfff < r.smallFirst ∧ r.smallLast < 0x110000)

instance (r : CaseRun) : Decidable r.IsProper := inferInstanceAs (Decidable (_ ∧ _))

/-- The small letters of the run lie to one side of the capitals of another run, or each of them
between two of these. -/
def isClearOf (r q : CaseRun) : Bool :=
  r.smallLast.blt q.first || q.last.blt r.smallFirst ||
    q.step == 2 && (r.step == 2 || r.first == r.last) && (r.smallFirst + q.first) % 2 == 1

/-- The small letters of the run lie to one side of each of some ranges. -/
def isClearOfRanges (ranges : CodeRanges) (r : CaseRun) : Bool :=
  ranges.all fun range => r.smallLast < range.1 || range.2 < r.smallFirst

theorem covers_iff : r.covers n = true ↔ r.first ≤ n ∧ n ≤ r.last ∧ (n - r.first) % r.step = 0 := by
  simp [covers, and_assoc]

theorem toNat_small (hr : r.IsProper) (hfirst : r.first ≤ n) (hlast : n ≤ r.last) :
    (r.small n).toNat = r.smallFirst + (n - r.first) ∧ (r.small n).toNat ≤ r.smallLast := by
  obtain ⟨hpos, hplace⟩ := hr
  unfold smallFirst smallLast at *
  have hcode : ((n : Int) + r.shift).toNat.isValidChar := by
    rcases hplace with hbelow | ⟨habove, hbelow⟩
    · exact .inl (by omega)
    · exact .inr ⟨by omega, by omega⟩
  have hsmall : (r.small n).toNat = (n + r.shift).toNat := by
    rw [small, Char.ofNat, dif_pos hcode]
    rfl
  rw [hsmall]
  omega

theorem not_covers_small (hr : r.IsProper) (hclear : r.isClearOf q = true)
    (hcovers : r.covers n = true) : q.covers (r.small n).toNat = false := by
  obtain ⟨hfirst, hlast, hstep⟩ := covers_iff.mp hcovers
  obtain ⟨hcode, hcodeLast⟩ := toNat_small hr hfirst hlast
  refine Bool.eq_false_iff.mpr fun hcovered => ?_
  obtain ⟨hfirst', hlast', hstep'⟩ := covers_iff.mp hcovered
  simp only [isClearOf, Bool.or_eq_true, Bool.and_eq_true, Nat.blt_eq, beq_iff_eq] at hclear
  rcases hclear with (hbefore | hbehind) | ⟨⟨htwo, hsteps⟩, hodd⟩
  · omega
  · omega
  · -- an even distance from the first small letter is an odd one from the first capital
    rw [htwo] at hstep'
    rcases hsteps with hsteps | hsingle
    · rw [hsteps] at hstep
      omega
    · omega

theorem not_contains_small {ranges : CodeRanges} (hr : r.IsProper)
    (hclear : r.isClearOfRanges ranges = true) (hcovers : r.covers n = true) :
    ranges.contains (r.small n) = false := by
  obtain ⟨hfirst, hlast, -⟩ := covers_iff.mp hcovers
  obtain ⟨hcode, hcodeLast⟩ := toNat_small hr hfirst hlast
  refine List.any_eq_false.mpr fun range hrange => ?_
  have hside := List.all_eq_true.mp hclear range hrange
  simp only [Bool.or_eq_true, Bool.and_eq_true, decide_eq_true_eq] at hside ⊢
  omega

end CaseRun

/-! ## The table of capitals -/

theorem isProper_of_mem_capitalRuns : ∀ r ∈ capitalRuns, r.IsProper := by decide +kernel

theorem isClearOf_of_mem_capitalRuns :
    ∀ r ∈ capitalRuns, ∀ q ∈ capitalRuns, r.isClearOf q = true := by
  have hall : (capitalRuns.all fun r => capitalRuns.all r.isClearOf) = true := by decide +kernel
  intro r hr q hq
  exact List.all_eq_true.mp (List.all_eq_true.mp hall r hr) q hq

/-- Spaces and the colon. -/
def delimiterRanges : CodeRanges := (0x3a, 0x3a) :: spaceRanges

theorem isClearOfRanges_delimiters :
    ∀ r ∈ capitalRuns, r.isClearOfRanges delimiterRanges = true := by decide +kernel

/-- The capital whose small letters are two characters is no small letter itself. -/
theorem isClearOfRanges_dotted :
    ∀ r ∈ capitalRuns, r.isClearOfRanges [(0x130, 0x130)] = true := by decide +kernel

theorem delimiter_of_isSpace {c : Char} (h : isSpace c = true) :
    delimiterRanges.contains c = true :=
  (Bool.or_eq_true _ _).mpr (.inr h)

/-! ## The letters of a character -/

/-- The character has small letters other than itself. -/
def isCapital (c : Char) : Bool := c.toNat == 0x130 || capitalRuns.any (·.covers c.toNat)

theorem isCapital_sigma {c : Char} (h : c.toNat = 0x3a3) : isCapital c = true := by
  have hcovered : capitalRuns.any (·.covers 0x3a3) = true := by decide +kernel
  rw [isCapital, h, hcovered]
  rfl

theorem isCapital_small {r : CaseRun} (hr : r ∈ capitalRuns) {n : Nat}
    (hcovers : r.covers n = true) : isCapital (r.small n) = false := by
  have hproper := isProper_of_mem_capitalRuns r hr
  have hdotted := CaseRun.not_contains_small hproper (isClearOfRanges_dotted r hr) hcovers
  have hcode : (r.small n).toNat ≠ 0x130 := by
    intro heq
    simp [CodeRanges.contains, heq] at hdotted
  have hruns : capitalRuns.any (·.covers (r.small n).toNat) = false := by
    refine List.any_eq_false.mpr fun q hq => ?_
    rw [CaseRun.not_covers_small hproper (isClearOf_of_mem_capitalRuns r hr q hq) hcovers]
    exact Bool.false_ne_true
  rw [isCapital, hruns, Bool.or_false]
  exact beq_eq_false_iff_ne.mpr hcode

/-- The letters can stand for the character in a lower-case text. -/
structure Lowers (c : Char) (letters : List Char) : Prop where
  ne_nil : letters ≠ []
  small : ∀ d ∈ letters, isCapital d = false
  /-- a space or a colon stands for itself only -/
  delimiter : ∀ d ∈ letters, delimiterRanges.contains d = true → d = c

/-- Letters that are neither capitals nor delimiters can stand for any character. -/
theorem lowers_of_all {letters : List Char} (hne : letters ≠ [])
    (h : (letters.all fun d => !isCapital d && !delimiterRanges.contains d) = true) (c : Char) :
    Lowers c letters := by
  have hplain {d : Char} (hd : d ∈ letters) :
      isCapital d = false ∧ delimiterRanges.contains d = false := by
    simpa using List.all_eq_true.mp h d hd
  refine ⟨hne, fun d hd => (hplain hd).1, ?_⟩
  intro d hd hdelimiter
  rw [(hplain hd).2] at hdelimiter
  cases hdelimiter

theorem lowers_lowerChar (c : Char) : Lowers c (lowerChar c) := by
  unfold lowerChar
  split
  · exact lowers_of_all (by simp) (by decide +kernel) c
  · rename_i hdotted
    split
    · rename_i r hfound
      have hr := List.mem_of_find?_eq_some hfound
      have hcovers : r.covers c.toNat = true := by simpa using List.find?_some hfound
      have hclear := CaseRun.not_contains_small (isProper_of_mem_capitalRuns r hr)
        (isClearOfRanges_delimiters r hr) hcovers
      refine lowers_of_all (by simp) ?_ c
      simp [isCapital_small hr hcovers, hclear]
    · rename_i hnone
      refine ⟨by simp, ?_, ?_⟩
      · intro d hd
        rw [List.mem_singleton.mp hd, isCapital]
        simpa [hdotted] using hnone
      · intro d hd _
        exact List.mem_singleton.mp hd

theorem lowers_sigma (c : Char) (final : Bool) :
    Lowers c [Char.ofNat (if final then 0x3c2 else 0x3c3)] := by
  refine lowers_of_all (by simp) ?_ c
  revert final
  decide +kernel

/-- A lower-case text has letters for every character of the text. -/
theorem exists_letters (before cs : List Char) :
    ∃ pieces, List.Forall₂ Lowers cs pieces ∧ lowerAfter before cs = pieces.flatten := by
  induction cs generalizing before with
  | nil => exact ⟨[], .nil, rfl⟩
  | cons c cs ih =>
    obtain ⟨pieces, hpieces, hrest⟩ := ih (c :: before)
    rw [lowerAfter, hrest]
    refine ⟨_ :: pieces, .cons ?_ hpieces, rfl⟩
    split
    · exact lowers_sigma c _
    · exact lowers_lowerChar c

theorem mem_of_letters {cs : List Char} {pieces : List (List Char)}
    (h : List.Forall₂ Lowers cs pieces) {d : Char} (hd : d ∈ pieces.flatten) :
    isCapital d = false ∧ (delimiterRanges.contains d = true → d ∈ cs) := by
  induction h with
  | nil => cases hd
  | @cons c letters cs pieces hletters _ ih =>
    rw [List.flatten_cons, List.mem_append] at hd
    rcases hd with hhead | hrest
    · refine ⟨hletters.small d hhead, fun hdelimiter => ?_⟩
      rw [hletters.delimiter d hhead hdelimiter]
      exact List.mem_cons_self
    · exact (ih hrest).imp_right fun h hdelimiter => List.mem_cons_of_mem c (h hdelimiter)

theorem Lowers.not_isSpace {c d : Char} {letters : List Char} (h : Lowers c letters)
    (hc : isSpace c = false) (hd : d ∈ letters) : isSpace d = false := by
  refine Bool.eq_false_iff.mpr fun hspace => ?_
  rw [h.delimiter d hd (delimiter_of_isSpace hspace), hc] at hspace
  cases hspace

theorem isTrimmed_of_letters {cs : List Char} {pieces : List (List Char)}
    (h : List.Forall₂ Lowers cs pieces) (hcs : IsTrimmed cs) : IsTrimmed pieces.flatten := by
  constructor
  case first =>
    intro d hd
    cases h with
    | nil => cases hd
    | @cons c letters _ _ hletters _ =>
      refine hletters.not_isSpace (hcs.first c rfl) ?_
      rw [List.flatten_cons, List.head?_append_of_ne_nil _ hletters.ne_nil] at hd
      exact List.mem_of_mem_head? hd
  case last =>
    -- the last of the letters is one of those of the last character
    intro d hd
    have hlast := hcs.last
    clear hcs
    induction h with
    | nil => cases hd
    | @cons c letters cs pieces hletters hrest ih =>
      cases hrest with
      | nil =>
        rw [List.flatten_cons, List.flatten_nil, List.append_nil] at hd
        exact hletters.not_isSpace (hlast c rfl) (List.mem_of_mem_getLast? hd)
      | @cons c' letters' cs pieces hletters' hrest =>
        have hne : (letters' :: pieces).flatten ≠ [] := by
          simp [hletters'.ne_nil]
        rw [List.flatten_cons, List.getLast?_append_of_ne_nil _ hne] at hd
        rw [List.getLast?_cons_cons] at hlast
        exact ih hd hlast

/-! ## Lower-case texts -/

variable {cs : List Char}

theorem not_isCapital_of_mem_lower {d : Char} (h : d ∈ lower cs) : isCapital d = false := by
  obtain ⟨pieces, hpieces, heq⟩ := exists_letters [] cs
  exact (mem_of_letters hpieces (heq ▸ h)).1

/-- A space or a colon of a lower-case text stands in the text itself. -/
theorem mem_of_mem_lower {d : Char} (hdelimiter : delimiterRanges.contains d = true)
    (h : d ∈ lower cs) : d ∈ cs := by
  obtain ⟨pieces, hpieces, heq⟩ := exists_letters [] cs
  exact (mem_of_letters hpieces (heq ▸ h)).2 hdelimiter

theorem lowerAfter_of_no_capital (before : List Char) (h : ∀ c ∈ cs, isCapital c = false) :
    lowerAfter before cs = cs := by
  induction cs generalizing before with
  | nil => rfl
  | cons c cs ih =>
    obtain ⟨hc, hcs⟩ := List.forall_mem_cons.mp h
    have hsigma : c.toNat ≠ 0x3a3 := fun heq => by simp [isCapital_sigma heq] at hc
    obtain ⟨hdotted, hruns⟩ := Bool.or_eq_false_iff.mp hc
    have hnone : capitalRuns.find? (·.covers c.toNat) = none := by
      rw [List.find?_eq_none]
      exact List.any_eq_false.mp hruns
    have hchar : lowerChar c = [c] := by
      rw [lowerChar, if_neg (beq_eq_false_iff_ne.mp hdotted), hnone]
    rw [lowerAfter, if_neg hsigma, hchar, ih _ hcs]
    rfl

/-- The lower-case form of a text is in lower case. -/
theorem lower_lower (cs : List Char) : lower (lower cs) = lower cs :=
  lowerAfter_of_no_capital [] fun _ h => not_isCapital_of_mem_lower h

theorem isTrimmed_lower (h : IsTrimmed cs) : IsTrimmed (lower cs) := by
  obtain ⟨pieces, hpieces, heq⟩ := exists_letters [] cs
  rw [lower, heq]
  exact isTrimmed_of_letters hpieces h

end FieldGuide.Text
