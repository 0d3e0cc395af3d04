import Mathlib.Data.Rat.Floor
import FieldGuide.Proofs.NumericBounds
import FieldGuide.Proofs.Rounding
import FieldGuide.Proofs.Trimming
set_option autoImplicit false

/-!
# Decimals as parameters

A decimal is an optional sign, some figures and, behind a point, some more.  Read as a parameter it
is to be cut off at the point.  Without a point it is read exactly, whatever its length.  With a
point it is rounded to 53 binary digits first, and whether the part before the point outlives that
is told by the steps between the numbers that can be rounded to.
-/

namespace FieldGuide

namespace Number

/-! ## Runs of figures -/

theorem ofFigures_append (front back : List Char) :
    ofFigures (front ++ back) = ofFigures front * 10 ^ back.length + ofFigures back := by
  rw [ofFigures, Nat.ofDigitChars_append, Nat.ofDigitChars_eq_ofDigitChars_zero, Nat.mul_comm]
  rfl

theorem ofFigures_singleton_lt {c : Char} (h : c.isDigit = true) : ofFigures [c] < 10 := by
  have hrange := Char.isDigit_iff_toNat.mp h
  have hnine : '9'.toNat = 57 := rfl
  have hzero : '0'.toNat = 48 := rfl
  rw [ofFigures, Nat.ofDigitChars_cons, Nat.ofDigitChars_nil]
  omega

theorem ofFigures_lt {cs : List Char} (h : ∀ c ∈ cs, c.isDigit = true) :
    ofFigures cs < 10 ^ cs.length := by
  induction cs with
  | nil => decide
  | cons c cs ih =>
    obtain ⟨hc, hcs⟩ := List.forall_mem_cons.mp h
    have hrest := ih hcs
    have hfirst : ofFigures [c] * 10 ^ cs.length ≤ 9 * 10 ^ cs.length :=
      Nat.mul_le_mul_right _ (Nat.le_of_lt_succ (ofFigures_singleton_lt hc))
    have happend := ofFigures_append [c] cs
    rw [List.singleton_append] at happend
    rw [happend, List.length_cons, Nat.pow_succ]
    omega

theorem natural?_of_figures {cs : List Char} (hne : cs ≠ []) (h : ∀ c ∈ cs, c.isDigit = true) :
    natural? cs = some (ofFigures cs) :=
  if_pos ⟨hne, List.all_eq_true.mpr h⟩

/-! ## Decimals -/

/-- How a decimal begins. -/
inductive Sign where
  | absent
  | plus
  | minus
  deriving DecidableEq, Repr

def Sign.text : Sign → List Char
  | absent => []
  | plus => ['+']
  | minus => ['-']

/-- The parts of a decimal. -/
structure Decimal where
  sign : Sign
  /-- the figures before the point -/
  front : List Char
  /-- the figures behind the point, if there is a point -/
  fraction : Option (List Char)
  front_ne_nil : front ≠ []
  isDigit_front : ∀ c ∈ front, c.isDigit = true
  isDigit_fraction : ∀ cs ∈ fraction, ∀ c ∈ cs, c.isDigit = true

namespace Decimal

/-- The point and what follows. -/
def pointed : Option (List Char) → List Char
  | none => []
  | some cs => '.' :: cs

def text (d : Decimal) : List Char := d.sign.text ++ (d.front ++ pointed d.fraction)

/-- The figures behind the point. -/
def back (d : Decimal) : List Char := d.fraction.getD []

/-- The number that a decimal stands for without its sign. -/
def size (d : Decimal) : ℚ := ofFigures d.front + ofFigures d.back / 10 ^ d.back.length

/-- The number that a decimal stands for. -/
def value (d : Decimal) : ℚ := if d.sign = .minus then -d.size else d.size

/-- The number without its fraction. -/
def truncated (d : Decimal) : Int := if 0 ≤ d.value then ⌊d.value⌋ else ⌈d.value⌉

variable (d : Decimal)

theorem isDigit_back : ∀ c ∈ d.back, c.isDigit = true := by
  unfold back
  cases hfraction : d.fraction with
  | none => exact nofun
  | some cs => exact d.isDigit_fraction cs hfraction

theorem floor_size : ⌊d.size⌋ = ofFigures d.front := by
  have hden : (0 : ℚ) < 10 ^ d.back.length := by positivity
  have hrest : (ofFigures d.back : ℚ) < 10 ^ d.back.length := by
    exact_mod_cast ofFigures_lt d.isDigit_back
  rw [Int.floor_eq_iff, size]
  constructor
  · have : (0 : ℚ) ≤ ofFigures d.back / 10 ^ d.back.length := by positivity
    push_cast
    linarith
  · have : (ofFigures d.back : ℚ) / 10 ^ d.back.length < 1 := (div_lt_one hden).mpr hrest
    push_cast
    linarith

/-- The figures before the point are what truncation leaves. -/
theorem truncated_eq :
    d.truncated = if d.sign = .minus then -(ofFigures d.front : Int) else ofFigures d.front := by
  have hsize : 0 ≤ d.size := by unfold size; positivity
  rw [truncated, value]
  by_cases hsign : d.sign = .minus
  · rw [if_pos hsign, if_pos hsign]
    by_cases hneg : 0 ≤ -d.size
    · have hzero : d.size = 0 := by linarith
      rw [if_pos hneg, ← d.floor_size, hzero]
      simp
    · rw [if_neg hneg, Int.ceil_neg, d.floor_size]
  · rw [if_neg hsign, if_neg hsign, if_pos hsize, d.floor_size]

/-! ## Reading a decimal -/

theorem front_eq_cons : ∃ c rest, d.front = c :: rest ∧ c.isDigit = true := by
  obtain ⟨c, rest, hfront⟩ := List.exists_cons_of_ne_nil d.front_ne_nil
  exact ⟨c, rest, hfront, d.isDigit_front c (hfront ▸ List.mem_cons_self)⟩

theorem cutSign_text :
    cutSign d.text = (decide (d.sign = .minus), d.front ++ pointed d.fraction) := by
  obtain ⟨c, rest, hfront, hdigit⟩ := d.front_eq_cons
  have hminus : c ≠ '-' := by rintro rfl; cases hdigit
  have hplus : c ≠ '+' := by rintro rfl; cases hdigit
  rw [text, hfront]
  cases d.sign with
  | absent => simp [Sign.text, cutSign, hminus, hplus]
  | plus => rfl
  | minus => rfl

theorem text_eq_cons : ∃ c rest, d.text = c :: rest := by
  obtain ⟨c, rest, hfront, -⟩ := d.front_eq_cons
  rw [text, hfront]
  cases d.sign <;> exact ⟨_, _, rfl⟩

theorem isSpace_of_mem_text {c : Char} (h : c ∈ d.text) : Text.isSpace c = false := by
  have hfigures {cs : List Char} (hcs : ∀ c ∈ cs, c.isDigit = true) (hc : c ∈ cs) :
      Text.isSpace c = false := Text.isSpace_of_isDigit (hcs c hc)
  rw [text, List.mem_append, List.mem_append] at h
  rcases h with hsign | hfront | hpointed
  · cases hs : d.sign <;> rw [hs] at hsign
    · cases hsign
    all_goals
      rw [Sign.text, List.mem_singleton] at hsign
      subst hsign
      decide
  · exact hfigures d.isDigit_front hfront
  · cases hfraction : d.fraction with
    | none =>
      rw [hfraction] at hpointed
      cases hpointed
    | some figures =>
      rw [hfraction, pointed, List.mem_cons] at hpointed
      rcases hpointed with rfl | hback
      · decide
      · exact hfigures (d.isDigit_fraction figures hfraction) hback

/-- Without a point the value is exact. -/
theorem whole?_text (hnone : d.fraction = none) : whole? d.text = some d.truncated := by
  rw [whole?, cutSign_text, hnone, truncated_eq]
  simp [pointed, natural?_of_figures d.front_ne_nil d.isDigit_front]

/-- With a point the text is not made of figures only. -/
theorem whole?_text_of_point {figures : List Char} (hpoint : d.fraction = some figures) :
    whole? d.text = none := by
  have hnatural : natural? (d.front ++ '.' :: figures) = none := by
    refine if_neg ?_
    rintro ⟨-, hall⟩
    have hdot := List.all_eq_true.mp hall '.' (by simp)
    cases hdot
  rw [whole?, cutSign_text, hpoint]
  simp [pointed, hnatural]

theorem read?_text {figures : List Char} (hpoint : d.fraction = some figures) :
    Numeral.read? d.text =
      some ⟨decide (d.sign = .minus), ofFigures (d.front ++ figures), -figures.length⟩ := by
  have hfigures : ∀ c ∈ figures, c.isDigit = true := d.isDigit_fraction figures hpoint
  have hpointEnds : EndsFigures ('.' :: figures) := endsFigures_cons (by decide) figures
  have htake := takeWhile_isDigit_append d.isDigit_front hpointEnds
  have hdrop := dropWhile_isDigit_append d.isDigit_front hpointEnds
  have hcut : Numeral.cutFraction ('.' :: figures) = (figures, []) := by
    have htake' := takeWhile_isDigit_append hfigures endsFigures_nil
    have hdrop' := dropWhile_isDigit_append hfigures endsFigures_nil
    rw [List.append_nil] at htake' hdrop'
    rw [Numeral.cutFraction, htake', hdrop']
  rw [Numeral.read?, cutSign_text, hpoint]
  simp only [pointed, htake, hdrop, hcut, d.front_ne_nil, false_and, if_false]
  simp [exponent?]

end Decimal

/-! ## Saturation -/

theorem toInt_saturate (n : Int) :
    (saturate n).toInt = max (-2 ^ 63) (min n (2 ^ 63 - 1)) := by
  have hmin : Int64.minValue.toInt = -2 ^ 63 := by decide
  have hmax : Int64.maxValue.toInt = 2 ^ 63 - 1 := by decide
  unfold saturate
  rw [hmin, hmax]
  split
  · rw [hmin]
    omega
  · split
    · rw [hmax]
      omega
    · rw [Int64.toInt_ofInt_of_le (by omega) (by omega)]
      omega

/-! ## Rounding a decimal -/

/-- A numeral with figures behind the point rounds like the ratio that it is, although the very
small ones are not computed. -/
theorem Numeral.exists_round? (negative : Bool) {digits places : Nat}
    (hsmall : digits / 10 ^ places < 2 ^ 64) :
    ∃ x, (⟨negative, digits, -places⟩ : Numeral).round? = some x ∧
      RoundsTo digits (10 ^ places) x.floor := by
  have hden : 0 < 10 ^ places := Nat.pow_pos (by decide)
  have hlength : (figures digits).length ≤ places + 20 := by
    refine (Nat.length_toDigits_le_iff (by decide) (by omega)).mpr ?_
    rw [Nat.pow_add, Nat.mul_comm, ← Nat.div_lt_iff_lt_mul hden]
    exact Nat.lt_trans hsmall (by decide)
  unfold round?
  dsimp only
  split
  · rename_i hzero
    exact ⟨.zero, rfl, roundsTo_zero (by omega)⟩
  · -- with at most twenty figures before the point the size is never out of range
    rw [if_neg (by omega)]
    split
    · rename_i hlow
      refine ⟨.zero, rfl, roundsTo_zero ?_⟩
      have hshort : (figures digits).length ≤ places - 1 := by omega
      have hlt : digits < 10 ^ (places - 1) :=
        (Nat.length_toDigits_le_iff (by decide) (by omega)).mp hshort
      have hpower : 10 ^ places = 10 ^ (places - 1) * 10 := by
        rw [← Nat.pow_succ]
        congr 1
        omega
      omega
    · split
      · obtain rfl : places = 0 := by omega
        have hsmall' : digits / 1 < 2 ^ 64 := by simpa using hsmall
        simpa using exists_nearest? Nat.one_pos hsmall'
      · simpa using exists_nearest? hden hsmall

namespace Decimal

variable (d : Decimal)

/-- Rounding keeps the part before the point: there is no point, or the steps are fine enough, or
the part is the greatest number of all, beyond which nothing is read. -/
def SurvivesRounding : Prop :=
  d.fraction = none ∨
    KeepsWhole (ofFigures d.front) (ofFigures d.back) (10 ^ d.back.length) ∨
      d.sign ≠ .minus ∧ ofFigures d.front = 2 ^ 63 - 1

instance : Decidable d.SurvivesRounding := inferInstanceAs (Decidable (_ ∨ _ ∨ _))

theorem integer?_text_of_no_point (hnone : d.fraction = none) (hlow : -2 ^ 63 ≤ d.truncated)
    (hhigh : d.truncated ≤ 2 ^ 63 - 1) : integer? d.text = some (Int64.ofInt d.truncated) := by
  have hmin : Int64.minValue.toInt = -2 ^ 63 := by decide
  have hmax : Int64.maxValue.toInt = 2 ^ 63 - 1 := by decide
  rw [integer?, inRange?, d.whole?_text hnone, Option.bind_some, hmin, hmax,
    if_pos ⟨hlow, hhigh⟩]
  rfl

theorem integer?_text_of_point {figures : List Char} (hpoint : d.fraction = some figures)
    (hsmall : ofFigures d.front ≤ 2 ^ 63) :
    ∃ r : Nat, integer? d.text = some (saturate (if d.sign = .minus then -(r : Int) else r)) ∧
      (r = ofFigures d.front ↔
        KeepsWhole (ofFigures d.front) (ofFigures d.back) (10 ^ d.back.length)) ∧
        (ofFigures d.front = 2 ^ 63 - 1 → ofFigures d.front ≤ r) := by
  have hback : d.back = figures := by rw [back, hpoint, Option.getD_some]
  have hrest : ofFigures figures < 10 ^ figures.length := hback ▸ ofFigures_lt d.isDigit_back
  have hden : 0 < 10 ^ figures.length := Nat.pow_pos (by decide)
  have hwhole : ofFigures (d.front ++ figures) / 10 ^ figures.length = ofFigures d.front := by
    rw [ofFigures_append, Nat.mul_comm, Nat.mul_add_div hden, Nat.div_eq_of_lt hrest,
      Nat.add_zero]
  have hmod : ofFigures (d.front ++ figures) % 10 ^ figures.length = ofFigures figures := by
    rw [ofFigures_append, Nat.mul_comm, Nat.mul_add_mod, Nat.mod_eq_of_lt hrest]
  have hrange : ofFigures (d.front ++ figures) / 10 ^ figures.length < 2 ^ 64 := by omega
  obtain ⟨x, hround, hrounds⟩ := Numeral.exists_round? (decide (d.sign = .minus)) hrange
  have hkeeps := hrounds.keeps
  have hgreatest := hrounds.greatest
  rw [hwhole, hmod] at hkeeps
  rw [hwhole] at hgreatest
  refine ⟨x.floor, ?_, hback ▸ hkeeps, hgreatest⟩
  rw [integer?, inRange?, d.whole?_text_of_point hpoint, d.read?_text hpoint]
  simp [Numeral.truncate?, hround]

/-- A decimal that fits into 64 bits is read, and as the number without its fraction just if the
part before the point survives rounding. -/
theorem integer?_text (hlow : -2 ^ 63 ≤ d.truncated) (hhigh : d.truncated ≤ 2 ^ 63 - 1) :
    ∃ n, integer? d.text = some n ∧ (n.toInt = d.truncated ↔ d.SurvivesRounding) := by
  cases hfraction : d.fraction with
  | none =>
    refine ⟨_, d.integer?_text_of_no_point hfraction hlow hhigh, ?_⟩
    exact iff_of_true (Int64.toInt_ofInt_of_le (by omega) (by omega)) (.inl hfraction)
  | some figures =>
    have htruncated := d.truncated_eq
    rw [SurvivesRounding, hfraction]
    by_cases hsign : d.sign = .minus
    · rw [if_pos hsign] at htruncated
      obtain ⟨r, hr, hkeeps, -⟩ := d.integer?_text_of_point hfraction (by omega)
      -- the least number of all is a multiple of its step
      have hleast : ofFigures d.front = 2 ^ 63 → r = ofFigures d.front := by
        intro heq
        rw [hkeeps, heq, KeepsWhole, if_neg (by decide)]
        decide
      refine ⟨_, hr, ?_⟩
      rw [if_pos hsign, toInt_saturate, ← hkeeps]
      simp only [reduceCtorEq, false_or, ne_eq, hsign, not_true_eq_false, false_and, or_false]
      omega
    · rw [if_neg hsign] at htruncated
      obtain ⟨r, hr, hkeeps, hgreatest⟩ := d.integer?_text_of_point hfraction (by omega)
      refine ⟨_, hr, ?_⟩
      rw [if_neg hsign, toInt_saturate, ← hkeeps]
      simp only [reduceCtorEq, false_or, ne_eq, hsign, not_false_eq_true, true_and]
      omega

end Decimal

end Number

/-! ## Parameters that are decimals -/

/-- A parameter that is a decimal, with any spaces around it, is read as a whole number if its
integral part fits into 64 bits; it is read without its fraction just if that part survives
rounding. -/
theorem Input.integer_truncates_iff (i : Input) (index : Nat) (d : Number.Decimal)
    (before after : List Char) (hbefore : ∀ c ∈ before, Text.isSpace c = true)
    (hafter : ∀ c ∈ after, Text.isSpace c = true)
    (hraw : i.parameters[index]? = some (String.ofList (before ++ d.text ++ after)))
    (hlow : Int64.minValue.toInt ≤ d.truncated) (hhigh : d.truncated ≤ Int64.maxValue.toInt) :
    ∃ n, i.integer index = .ok n ∧ (n.toInt = d.truncated ↔ d.SurvivesRounding) := by
  have hmin : Int64.minValue.toInt = -2 ^ 63 := by decide
  have hmax : Int64.maxValue.toInt = 2 ^ 63 - 1 := by decide
  have hne : d.text ≠ [] := by
    obtain ⟨c, rest, htext⟩ := d.text_eq_cons
    rw [htext]
    exact List.cons_ne_nil c rest
  obtain ⟨n, hn, hiff⟩ := d.integer?_text (by omega) (by omega)
  refine ⟨n, Input.integer_eq_ok.mpr ⟨_, hraw, ?_⟩, hiff⟩
  rw [String.toList_ofList,
    Text.trim_surrounded hbefore hafter (fun _ hc => d.isSpace_of_mem_text hc) hne]
  exact hn

/-- The least number of all, with a half behind it. -/
def Number.Decimal.leastAndHalf : Number.Decimal where
  sign := .minus
  front := "9223372036854775808".toList
  fraction := some ['5']
  front_ne_nil := by decide
  isDigit_front := List.all_eq_true.mp (by decide)
  isDigit_fraction := by
    rintro _ ⟨⟩
    exact List.all_eq_true.mp (by decide)

/-- The least number of all survives, with spaces around it. -/
theorem Input.integer_truncates_iff_least :
    Number.Decimal.leastAndHalf.truncated = Int64.minValue.toInt ∧
      Number.Decimal.leastAndHalf.SurvivesRounding ∧
        ∃ n, Input.integer ⟨"max", "f", [" -9223372036854775808.5\t"], none, .fixed⟩ 0 = .ok n ∧
          (n.toInt = Number.Decimal.leastAndHalf.truncated ↔
            Number.Decimal.leastAndHalf.SurvivesRounding) := by
  have htruncated : Number.Decimal.leastAndHalf.truncated = Int64.minValue.toInt := by
    rw [Number.Decimal.truncated_eq]
    decide
  refine ⟨htruncated, by decide, ?_⟩
  refine Input.integer_truncates_iff ⟨"max", "f", [" -9223372036854775808.5\t"], none, .fixed⟩ 0
    Number.Decimal.leastAndHalf [' '] ['\t'] (List.all_eq_true.mp (by decide))
    (List.all_eq_true.mp (by decide)) (by decide) ?_ ?_
  · rw [htruncated]
  · rw [htruncated]
    decide

/-- Seventeen nines behind the point. -/
def Number.Decimal.almostOne : Number.Decimal where
  sign := .absent
  front := ['0']
  fraction := some (List.replicate 17 '9')
  front_ne_nil := by decide
  isDigit_front := List.all_eq_true.mp (by decide)
  isDigit_fraction := by
    rintro _ ⟨⟩
    exact List.all_eq_true.mp (by decide)

/-- Not every decimal is cut off at the point: what is almost one is read as one. -/
theorem Input.integer_rounds_up :
    String.ofList Number.Decimal.almostOne.text = "0.99999999999999999" ∧
      Number.Decimal.almostOne.truncated = 0 ∧
        Input.integer ⟨"between", "f", ["0.99999999999999999", "0.99999999999999999"], none, .fixed⟩
          0 = .ok 1 := by
  refine ⟨by decide, ?_, Input.integer_eq_ok.mpr ⟨_, rfl, by decide +kernel⟩⟩
  rw [Number.Decimal.truncated_eq]
  decide

end FieldGuide
