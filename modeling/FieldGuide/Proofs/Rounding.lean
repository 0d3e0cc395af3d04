import FieldGuide.Number.Binary
set_option autoImplicit false

/-!
# The whole part of a rounded ratio

A ratio that is rounded to 53 binary digits need not keep its whole part.  Where the steps between
the numbers are no coarser than one, the whole part is lost if the ratio rounds up to the next whole
number; where they are coarser, it is kept only if it is a multiple of the step.  The step is known
from the binary length of the whole part, except for ratios below one half, whose whole part is zero
before and after.
-/

namespace FieldGuide.Number

/-! ## Binary lengths -/

theorem lt_bitLength_iff {k n : Nat} : k < bitLength n ↔ 2 ^ k ≤ n := by
  unfold bitLength
  split
  · rename_i hzero
    have := Nat.two_pow_pos k
    omega
  · rename_i hne
    rw [Nat.lt_succ_iff, Nat.le_log2 hne]

theorem bitLength_le_iff {k n : Nat} : bitLength n ≤ k ↔ n < 2 ^ k := by
  rw [← Nat.not_lt, lt_bitLength_iff, Nat.not_le]

theorem two_pow_bitLength_le {n : Nat} (hpos : 0 < n) : 2 ^ bitLength n ≤ 2 * n := by
  obtain ⟨k, hk⟩ := Nat.exists_eq_succ_of_ne_zero (Nat.ne_of_gt (lt_bitLength_iff.mpr hpos))
  have hhalf : 2 ^ k ≤ n := lt_bitLength_iff.mp (by omega)
  rw [hk, Nat.pow_succ]
  omega

/-! ## Rounding a ratio to a whole number -/

/-- A whole number is reached from half a unit below it on, and from there just if it is even. -/
theorem le_roundRatio_iff {num den m : Nat} (hden : 0 < den) :
    m ≤ roundRatio num den ↔
      2 * (m * den) < 2 * num + den ∨ 2 * (m * den) = 2 * num + den ∧ m % 2 = 0 := by
  have hdiv := Nat.div_add_mod' num den
  have hmod := Nat.mod_lt num hden
  unfold roundRatio
  dsimp only
  generalize num / den = q at hdiv
  generalize num % den = r at hdiv hmod
  rcases Nat.lt_trichotomy m (q + 1) with hlt | rfl | hgt
  · have hmul : m * den ≤ q * den := Nat.mul_le_mul_right den (Nat.le_of_lt_succ hlt)
    split <;> omega
  · have hmul : (q + 1) * den = q * den + den := Nat.succ_mul q den
    split <;> omega
  · have hmul : (q + 2) * den ≤ m * den := Nat.mul_le_mul_right den hgt
    have hexpand : (q + 2) * den = q * den + 2 * den := Nat.add_mul q 2 den
    split <;> omega

theorem roundRatio_le (num den : Nat) : roundRatio num den ≤ num / den + 1 := by
  unfold roundRatio
  dsimp only
  split <;> omega

/-! ## Ratios and powers of two -/

/-- The ratio is less than a power of two. -/
def IsBelow (num den : Nat) (e : Int) : Prop := num * 2 ^ (-e).toNat < den * 2 ^ e.toNat

/-- A factor of both sides does not count. -/
theorem isBelow_iff {num den p q : Nat} {e : Int} (he : e = q - p) :
    IsBelow num den e ↔ num * 2 ^ p < den * 2 ^ q := by
  obtain ⟨c, hp, hq⟩ : ∃ c, p = (-e).toNat + c ∧ q = e.toNat + c :=
    ⟨min p q, by omega, by omega⟩
  rw [IsBelow, hp, hq, Nat.pow_add, Nat.pow_add, ← Nat.mul_assoc, ← Nat.mul_assoc,
    Nat.mul_lt_mul_right (Nat.two_pow_pos c)]

theorem isBelow_natCast {num den k : Nat} : IsBelow num den k ↔ num < den * 2 ^ k := by
  rw [isBelow_iff (p := 0) (q := k) (by omega), Nat.pow_zero, Nat.mul_one]

theorem IsBelow.mono {num den : Nat} {e e' : Int} (h : IsBelow num den e) (hle : e ≤ e') :
    IsBelow num den e' := by
  obtain ⟨k, rfl⟩ := Int.le.dest hle
  rw [isBelow_iff (p := (-e).toNat) (q := e.toNat + k) (by omega)]
  have hpower : 2 ^ e.toNat ≤ 2 ^ (e.toNat + k) := Nat.pow_le_pow_right (by decide) (by omega)
  exact Nat.lt_of_lt_of_le h (Nat.mul_le_mul_left den hpower)

theorem isBelow_bitLength (num : Nat) {den : Nat} (hden : 0 < den) :
    IsBelow num den (bitLength num - bitLength den + 1) := by
  rw [isBelow_iff (p := bitLength den) (q := bitLength num + 1) (by omega)]
  have hnum : num < 2 ^ bitLength num := bitLength_le_iff.mp (Nat.le_refl _)
  calc num * 2 ^ bitLength den
      < 2 ^ bitLength num * 2 ^ bitLength den :=
        Nat.mul_lt_mul_of_pos_right hnum (Nat.two_pow_pos _)
    _ ≤ 2 ^ bitLength num * (2 * den) := Nat.mul_le_mul_left _ (two_pow_bitLength_le hden)
    _ = den * 2 ^ (bitLength num + 1) := by rw [Nat.pow_succ]; ac_rfl

theorem not_isBelow_bitLength {num : Nat} (den : Nat) (hnum : 0 < num) :
    ¬ IsBelow num den (bitLength num - bitLength den - 1) := by
  rw [isBelow_iff (p := bitLength den + 1) (q := bitLength num) (by omega), Nat.not_lt]
  have hden : den < 2 ^ bitLength den := bitLength_le_iff.mp (Nat.le_refl _)
  calc den * 2 ^ bitLength num
      ≤ 2 ^ bitLength den * (2 * num) :=
        Nat.mul_le_mul (Nat.le_of_lt hden) (two_pow_bitLength_le hnum)
    _ = num * 2 ^ (bitLength den + 1) := by rw [Nat.pow_succ]; ac_rfl

/-! ## Steps -/

theorem scale_natCast (num den k : Nat) : scale num den k = (num, den * 2 ^ k) := by
  simp [scale]

theorem scale_neg (num den k : Nat) : scale num den (-k) = (num * 2 ^ k, den) := by
  cases k with
  | zero => simp [scale]
  | succ k => simp [scale]; omega

theorem scale_lt_iff {num den k : Nat} {e : Int} :
    (scale num den e).1 < 2 ^ k * (scale num den e).2 ↔ IsBelow num den (e + k) := by
  obtain ⟨j, rfl | rfl⟩ := Int.eq_nat_or_neg e
  · rw [scale_natCast, isBelow_iff (p := 0) (q := j + k) (by omega), Nat.pow_zero, Nat.mul_one,
      Nat.pow_add, Nat.mul_comm (2 ^ k), Nat.mul_assoc]
  · rw [scale_neg, isBelow_iff (p := j) (q := k) (by omega), Nat.mul_comm (2 ^ k)]

theorem scale_pos {num den : Nat} (hden : 0 < den) (e : Int) : 0 < (scale num den e).2 := by
  unfold scale
  split
  · exact Nat.mul_pos hden (Nat.two_pow_pos _)
  · exact hden

/-- A ratio has at most 53 binary digits in its steps, and no fewer unless the step is the least. -/
theorem stepExponent_normal {num den : Nat} (hnum : 0 < num) (hden : 0 < den) :
    IsBelow num den (stepExponent num den + 53) ∧
      (stepExponent num den = leastExponent ∨
        ¬ IsBelow num den (stepExponent num den + 52)) := by
  have hbelow := isBelow_bitLength num hden
  have hnot := not_isBelow_bitLength den hnum
  unfold stepExponent
  generalize he : max ((bitLength num : Int) - bitLength den - precision) leastExponent = e
  have hprecision : (precision : Int) = 53 := rfl
  -- the first guess is right or one too low, and the test tells which
  have hfull : 2 ^ precision ≤ (scale num den e).1 / (scale num den e).2 ↔
      ¬ IsBelow num den (e + 53) := by
    rw [Nat.le_div_iff_mul_le (scale_pos hden e), ← Nat.not_lt]
    exact not_congr scale_lt_iff
  have hnext : IsBelow num den (e + 54) := hbelow.mono (by omega)
  dsimp only
  split
  · rename_i hover
    refine ⟨?_, .inr ?_⟩
    · rwa [show e + 1 + 53 = e + 54 by omega]
    · rw [show e + 1 + 52 = e + 53 by omega]
      exact hfull.mp hover
  · rename_i hunder
    refine ⟨Classical.not_not.mp (mt hfull.mpr hunder), ?_⟩
    rcases Int.le_total leastExponent ((bitLength num : Int) - bitLength den - precision) with
      hle | hle
    · refine .inr fun habove => hnot ?_
      rwa [show (bitLength num : Int) - bitLength den - 1 = e + 52 by omega]
    · exact .inl (by omega)

/-- From one half on, the step follows from the binary length of the whole part. -/
theorem stepExponent_eq {num den : Nat} (hden : 0 < den) (hhalf : den ≤ 2 * num) :
    stepExponent num den = bitLength (num / den) - 53 := by
  have hnum : 0 < num := by omega
  obtain ⟨hbelow, hleast⟩ := stepExponent_normal hnum hden
  -- the ratio lies between two powers of two, of which the binary length of its whole part tells
  have hupper : IsBelow num den (bitLength (num / den)) := by
    rw [isBelow_natCast, Nat.mul_comm, ← Nat.div_lt_iff_lt_mul hden]
    exact bitLength_le_iff.mp (Nat.le_refl _)
  have hlower : ¬ IsBelow num den (bitLength (num / den) - 1) := by
    cases hlength : bitLength (num / den) with
    | zero =>
      rw [isBelow_iff (p := 1) (q := 0) (by omega)]
      omega
    | succ k =>
      have hk : 2 ^ k ≤ num / den := lt_bitLength_iff.mp (by omega)
      rw [Nat.le_div_iff_mul_le hden, Nat.mul_comm] at hk
      rw [isBelow_iff (p := 0) (q := k) (by omega)]
      omega
  have hle : (bitLength (num / den) : Int) - 53 ≤ stepExponent num den := by
    refine Int.not_lt.mp fun hlt => hlower (hbelow.mono ?_)
    omega
  rcases hleast with hleast | habove
  · have : leastExponent = -1074 := rfl
    omega
  · refine Int.le_antisymm (Int.not_lt.mp fun hlt => habove (hupper.mono ?_)) hle
    omega

/-- A ratio below one half is rounded in steps finer than one. -/
theorem exists_stepExponent_eq_neg {num den : Nat} (hnum : 0 < num) (hhalf : 2 * num < den) :
    ∃ k : Nat, stepExponent num den = -k := by
  obtain ⟨-, hleast⟩ := stepExponent_normal hnum (Nat.zero_lt_of_lt hhalf)
  refine ⟨(-stepExponent num den).toNat, ?_⟩
  rcases hleast with hleast | habove
  · have : leastExponent = -1074 := rfl
    omega
  · have hbelow : IsBelow num den (-1) := by
      rw [isBelow_iff (p := 1) (q := 0) (by omega)]
      omega
    have : stepExponent num den + 52 < -1 := Int.not_le.mp fun hle => habove (hbelow.mono hle)
    omega

/-! ## The whole part after rounding -/

theorem Dyadic.floor_neg (m k : Nat) : (⟨m, -k⟩ : Dyadic).floor = m / 2 ^ k := by
  cases k with
  | zero => simp [floor]
  | succ k => simp [floor]; omega

theorem Dyadic.floor_natCast (m k : Nat) : (⟨m, k⟩ : Dyadic).floor = m * 2 ^ k := by
  simp [floor]

/-- How many steps there are from a whole number to the next one, where they are fine. -/
def stepsPerUnit (whole : Nat) : Nat := 2 ^ (53 - bitLength whole)

/-- How many whole numbers there are from a step to the next one, where they are coarse. -/
def unitsPerStep (whole : Nat) : Nat := 2 ^ (bitLength whole - 53)

/-- With fine steps the whole part is kept unless the ratio reaches the next whole number, from half
a step below it. -/
theorem roundRatio_div_eq_iff {num den steps : Nat} (hden : 0 < den) (hsteps : 0 < steps) :
    roundRatio (num * steps) den / steps = num / den ↔
      den < 2 * ((den - num % den) * steps) ∨
        den = 2 * ((den - num % den) * steps) ∧ (num / den + 1) * steps % 2 = 1 := by
  have hdiv := Nat.div_add_mod' num den
  have hmod := Nat.mod_lt num hden
  have hreach (m : Nat) : m ≤ roundRatio (num * steps) den / steps ↔
      2 * (m * steps * den) < 2 * (num * steps) + den ∨
        2 * (m * steps * den) = 2 * (num * steps) + den ∧ m * steps % 2 = 0 := by
    rw [Nat.le_div_iff_mul_le hsteps, le_roundRatio_iff hden]
  generalize roundRatio (num * steps) den / steps = floor at hreach
  generalize num / den = whole at hdiv
  generalize num % den = rest at hdiv hmod
  have hwhole : whole ≤ floor := by
    rw [hreach]
    have hle : whole * den * steps ≤ num * steps := Nat.mul_le_mul_right steps (by omega)
    have hcomm : whole * steps * den = whole * den * steps := by ac_rfl
    omega
  have hnext : (whole + 1) * steps * den = num * steps + (den - rest) * steps := by
    rw [← Nat.add_mul, show num + (den - rest) = (whole + 1) * den by rw [Nat.succ_mul]; omega]
    ac_rfl
  have hsucc := hreach (whole + 1)
  rw [hnext] at hsucc
  have hparity := Nat.mod_two_eq_zero_or_one ((whole + 1) * steps)
  omega

/-- With coarse steps only their multiples are kept. -/
theorem roundRatio_mul_eq_iff {num den units : Nat} (hden : 0 < den) (hunits : 2 ≤ units) :
    roundRatio num (den * units) * units = num / den ↔ units ∣ num / den := by
  constructor
  · intro heq
    exact ⟨_, by rw [← heq, Nat.mul_comm]⟩
  · rintro ⟨c, hc⟩
    have hdiv := Nat.div_add_mod' num den
    have hmod := Nat.mod_lt num hden
    have hscaled : 0 < den * units := Nat.mul_pos hden (by omega)
    have hcoarse : den * 2 ≤ den * units := Nat.mul_le_mul_left den hunits
    have hwhole : c * (den * units) = num / den * den := by rw [hc]; ac_rfl
    have hlow : c ≤ roundRatio num (den * units) := by
      rw [le_roundRatio_iff hscaled, hwhole]
      omega
    have hhigh : ¬ c + 1 ≤ roundRatio num (den * units) := by
      rw [le_roundRatio_iff hscaled, Nat.succ_mul c, hwhole]
      omega
    rw [hc, show roundRatio num (den * units) = c by omega, Nat.mul_comm]

/-- Coarse steps do not lead below a whole number right before one of their multiples. -/
theorem le_roundRatio_mul {num den units : Nat} (hden : 0 < den) (hunits : 3 ≤ units)
    (hnext : units ∣ num / den + 1) : num / den ≤ roundRatio num (den * units) * units := by
  obtain ⟨c, hc⟩ := hnext
  have hdiv := Nat.div_add_mod' num den
  have hscaled : 0 < den * units := Nat.mul_pos hden (by omega)
  have hcoarse : den * 3 ≤ den * units := Nat.mul_le_mul_left den hunits
  have hmul : c * (den * units) = num / den * den + den := by
    rw [← Nat.succ_mul, Nat.succ_eq_add_one, hc]
    ac_rfl
  have hlow : c ≤ roundRatio num (den * units) := by
    rw [le_roundRatio_iff hscaled, hmul]
    omega
  have hreach := Nat.mul_le_mul_right units hlow
  rw [Nat.mul_comm c] at hreach
  omega

/-! ## Whole parts that are kept -/

/-- Whole part and rest of a ratio, of which rounding keeps the whole part. -/
def KeepsWhole (whole rest den : Nat) : Prop :=
  if whole < 2 ^ 53 then
    den < 2 * ((den - rest) * stepsPerUnit whole) ∨
      den = 2 * ((den - rest) * stepsPerUnit whole) ∧ (whole + 1) * stepsPerUnit whole % 2 = 1
  else unitsPerStep whole ∣ whole

instance (whole rest den : Nat) : Decidable (KeepsWhole whole rest den) :=
  inferInstanceAs (Decidable (ite _ _ _))

/-- A whole part of zero is kept where less than one half is left. -/
theorem keepsWhole_zero {rest den : Nat} (hhalf : 2 * rest < den) : KeepsWhole 0 rest den := by
  have hsteps : stepsPerUnit 0 = 2 ^ 53 := rfl
  rw [KeepsWhole, if_pos (by decide), hsteps]
  omega

/-- What is known of the whole part that is left of a ratio after rounding: when it is the whole
part of the ratio itself, and that the greatest one of 63 bits at least does not become less. -/
structure RoundsTo (num den whole : Nat) : Prop where
  keeps : whole = num / den ↔ KeepsWhole (num / den) (num % den) den
  greatest : num / den = 2 ^ 63 - 1 → num / den ≤ whole

theorem roundsTo_zero {num den : Nat} (hhalf : 2 * num < den) : RoundsTo num den 0 := by
  have hwhole : num / den = 0 := Nat.div_eq_of_lt (by omega)
  have hrest : num % den = num := Nat.mod_eq_of_lt (by omega)
  constructor
  case keeps =>
    rw [hwhole, hrest]
    exact iff_of_true rfl (keepsWhole_zero hhalf)
  case greatest => omega

theorem roundsTo_of_fine {num den : Nat} (hden : 0 < den) (hwhole : num / den < 2 ^ 53) :
    RoundsTo num den
      (roundRatio (num * stepsPerUnit (num / den)) den / stepsPerUnit (num / den)) := by
  constructor
  case keeps =>
    rw [KeepsWhole, if_pos hwhole]
    exact roundRatio_div_eq_iff hden (Nat.two_pow_pos _)
  case greatest => omega

theorem roundsTo_of_coarse {num den : Nat} (hden : 0 < den) (hwhole : 2 ^ 53 ≤ num / den) :
    RoundsTo num den
      (roundRatio num (den * unitsPerStep (num / den)) * unitsPerStep (num / den)) := by
  have hlength : 53 < bitLength (num / den) := lt_bitLength_iff.mpr hwhole
  have hunits : 2 ^ 1 ≤ unitsPerStep (num / den) := Nat.pow_le_pow_right (by decide) (by omega)
  constructor
  case keeps =>
    rw [KeepsWhole, if_neg (Nat.not_lt.mpr hwhole)]
    exact roundRatio_mul_eq_iff hden hunits
  case greatest =>
    intro hgreatest
    have hten : unitsPerStep (num / den) = 2 ^ 10 := by rw [hgreatest]; decide
    rw [hten]
    refine le_roundRatio_mul hden (by decide) ?_
    rw [hgreatest]
    decide

/-! ## The nearest number -/

theorem nearest?_of_exponent_neg {num den k : Nat} (hnum : num ≠ 0)
    (he : stepExponent num den = -k) (hwhole : num / den < 2 ^ 53) :
    nearest? num den = some ⟨roundRatio (num * 2 ^ k) den, -k⟩ := by
  have hfinite : ¬ ((0 : Int) ≤ -k ∧
      2 ^ overflowExponent ≤ roundRatio (num * 2 ^ k) den * 2 ^ (-(k : Int)).toNat) := by
    rintro ⟨hle, hover⟩
    obtain rfl : k = 0 := by omega
    have hround := roundRatio_le num den
    have hrange : 2 ^ 54 ≤ 2 ^ overflowExponent := Nat.pow_le_pow_right (by decide) (by decide)
    simp only [Nat.pow_zero, Nat.mul_one, Int.natCast_zero, Int.neg_zero, Int.toNat_zero] at hover
    omega
  rw [nearest?, if_neg hnum, he]
  simp only [scale_neg]
  exact if_neg hfinite

theorem nearest?_of_exponent_natCast {num den k : Nat} (hnum : num ≠ 0)
    (he : stepExponent num den = k) (hwhole : num / den < 2 ^ 64) (hk : k ≤ 64) :
    nearest? num den = some ⟨roundRatio num (den * 2 ^ k), k⟩ := by
  have hfinite : ¬ ((0 : Int) ≤ k ∧
      2 ^ overflowExponent ≤ roundRatio num (den * 2 ^ k) * 2 ^ (k : Int).toNat) := by
    rintro ⟨-, hover⟩
    rw [Int.toNat_natCast] at hover
    have hround : roundRatio num (den * 2 ^ k) ≤ 2 ^ 64 := by
      have hle := roundRatio_le num (den * 2 ^ k)
      have hdiv : num / den / 2 ^ k ≤ num / den := Nat.div_le_self _ _
      rw [Nat.div_div_eq_div_mul] at hdiv
      omega
    have hpower : 2 ^ k ≤ 2 ^ 64 := Nat.pow_le_pow_right (by decide) hk
    have hrange : 2 ^ 64 * 2 ^ 64 < 2 ^ overflowExponent := by
      rw [← Nat.pow_add]
      exact Nat.pow_lt_pow_right (by decide) (by decide)
    have := Nat.mul_le_mul hround hpower
    omega
  rw [nearest?, if_neg hnum, he]
  simp only [scale_natCast]
  exact if_neg hfinite

theorem nearest?_of_lt_half {num den : Nat} (hhalf : 2 * num < den) :
    ∃ x, nearest? num den = some x ∧ x.floor = 0 := by
  have hden : 0 < den := Nat.zero_lt_of_lt hhalf
  by_cases hnum : num = 0
  · exact ⟨.zero, by rw [nearest?, if_pos hnum], rfl⟩
  · obtain ⟨k, hk⟩ := exists_stepExponent_eq_neg (Nat.pos_of_ne_zero hnum) hhalf
    have hwhole : num / den = 0 := Nat.div_eq_of_lt (by omega)
    refine ⟨_, nearest?_of_exponent_neg hnum hk (by omega), ?_⟩
    rw [Dyadic.floor_neg, ← hwhole, roundRatio_div_eq_iff hden (Nat.two_pow_pos k),
      Nat.mod_eq_of_lt (by omega)]
    refine .inl ?_
    have hle : (den - num) * 1 ≤ (den - num) * 2 ^ k := Nat.mul_le_mul_left _ (Nat.two_pow_pos k)
    omega

theorem nearest?_of_fine {num den : Nat} (hden : 0 < den) (hhalf : den ≤ 2 * num)
    (hwhole : num / den < 2 ^ 53) :
    ∃ x, nearest? num den = some x ∧
      x.floor = roundRatio (num * stepsPerUnit (num / den)) den / stepsPerUnit (num / den) := by
  have hlength : bitLength (num / den) ≤ 53 := bitLength_le_iff.mpr hwhole
  have he : stepExponent num den = -(53 - bitLength (num / den) : Nat) := by
    rw [stepExponent_eq hden hhalf]
    omega
  exact ⟨_, nearest?_of_exponent_neg (by omega) he hwhole, Dyadic.floor_neg _ _⟩

theorem nearest?_of_coarse {num den : Nat} (hden : 0 < den) (hlow : 2 ^ 53 ≤ num / den)
    (hhigh : num / den < 2 ^ 64) :
    ∃ x, nearest? num den = some x ∧
      x.floor = roundRatio num (den * unitsPerStep (num / den)) * unitsPerStep (num / den) := by
  have hle := Nat.div_mul_le_self num den
  have hmul : den * 2 ≤ num / den * den := by
    rw [Nat.mul_comm]
    exact Nat.mul_le_mul_right den (by omega)
  have hlength : 53 < bitLength (num / den) := lt_bitLength_iff.mpr hlow
  have hlength' : bitLength (num / den) ≤ 64 := bitLength_le_iff.mpr hhigh
  have he : stepExponent num den = (bitLength (num / den) - 53 : Nat) := by
    rw [stepExponent_eq hden (by omega)]
    omega
  exact ⟨_, nearest?_of_exponent_natCast (by omega) he hhigh (by omega), Dyadic.floor_natCast _ _⟩

/-- A ratio with a whole part of 64 bits rounds to a finite number. -/
theorem exists_nearest? {num den : Nat} (hden : 0 < den) (hsmall : num / den < 2 ^ 64) :
    ∃ x, nearest? num den = some x ∧ RoundsTo num den x.floor := by
  by_cases hhalf : 2 * num < den
  · obtain ⟨x, hx, hfloor⟩ := nearest?_of_lt_half hhalf
    exact ⟨x, hx, hfloor ▸ roundsTo_zero hhalf⟩
  by_cases hfine : num / den < 2 ^ 53
  · obtain ⟨x, hx, hfloor⟩ := nearest?_of_fine hden (Nat.not_lt.mp hhalf) hfine
    exact ⟨x, hx, hfloor ▸ roundsTo_of_fine hden hfine⟩
  · obtain ⟨x, hx, hfloor⟩ := nearest?_of_coarse hden (Nat.not_lt.mp hfine) hsmall
    exact ⟨x, hx, hfloor ▸ roundsTo_of_coarse hden (Nat.not_lt.mp hfine)⟩

end FieldGuide.Number
