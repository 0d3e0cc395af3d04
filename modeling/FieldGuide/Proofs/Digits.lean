import FieldGuide.Proofs.Reading
set_option autoImplicit false

/-!
# Drawn numbers and their digits

A number that is drawn between two bounds lies between them, in whichever order they stand.  So a
number between two powers of ten has a known count of digits, and a digit string is cut to its
length.  Together they say how an example of so many digits looks.
-/

namespace FieldGuide

/-! ## Figures -/

namespace Number

theorem length_figures_eq {n digits : Nat} (hpos : 0 < digits) (hlow : 10 ^ (digits - 1) ≤ n)
    (hhigh : n < 10 ^ digits) : (figures n).length = digits := by
  have hle : (figures n).length ≤ digits :=
    (Nat.length_toDigits_le_iff (by decide) hpos).mpr hhigh
  have hge : digits - 1 < (figures n).length := by
    cases hone : digits - 1 with
    | zero => exact length_figures_pos n
    | succ fewer =>
      rw [hone] at hlow
      refine Nat.lt_of_not_le ?_
      intro hshort
      have hsmall : n < 10 ^ (fewer + 1) :=
        (Nat.length_toDigits_le_iff (by decide) (Nat.succ_pos _)).mp hshort
      omega
  omega

theorem isDigit_of_mem_figures {n : Nat} {c : Char} (h : c ∈ figures n) : c.isDigit = true :=
  Nat.isDigit_of_mem_toDigits (by decide) (by decide) h

theorem exists_figures_eq_cons (n : Nat) :
    ∃ c cs, figures n = c :: cs ∧ c.isDigit = true := by
  obtain ⟨c, cs, hfigures⟩ := List.exists_cons_of_length_pos (length_figures_pos n)
  exact ⟨c, cs, hfigures, isDigit_of_mem_figures (hfigures ▸ List.mem_cons_self)⟩

/-- Figures have no zero in front of others. -/
theorem eq_zero_of_head?_figures {n : Nat} (h : (figures n).head? = some '0') : n = 0 := by
  induction n using Nat.strongRecOn with
  | ind n ih =>
    rcases Nat.lt_or_ge n 10 with hlt | hge
    · have hdigit : ∀ m < 10, (Nat.toDigits 10 m).head? = some '0' → m = 0 := by decide
      exact hdigit n hlt h
    · have hfront : (figures (n / 10)).head? = some '0' := by
        obtain ⟨c, cs, hfigures, -⟩ := exists_figures_eq_cons (n / 10)
        rw [figures, Nat.toDigits_of_base_le (by decide) hge, List.head?_append] at h
        unfold figures at hfigures ⊢
        simpa [hfigures] using h
      have hzero := ih (n / 10) (by omega) hfront
      omega

theorem head?_figures_ne {n : Nat} (hpos : 0 < n) : (figures n).head? ≠ some '0' := by
  intro hzero
  have := eq_zero_of_head?_figures hzero
  omega

/-- The text does not begin with a figure, so a number in front of it ends there. -/
def EndsFigures (rest : List Char) : Prop := ∀ c ∈ rest.head?, c.isDigit = false

theorem endsFigures_nil : EndsFigures [] := nofun

theorem endsFigures_cons {c : Char} (hc : c.isDigit = false) (cs : List Char) :
    EndsFigures (c :: cs) := by
  rintro d ⟨⟩
  exact hc

theorem takeWhile_isDigit_append {cs rest : List Char} (hcs : ∀ c ∈ cs, c.isDigit = true)
    (hrest : EndsFigures rest) : (cs ++ rest).takeWhile Char.isDigit = cs := by
  rw [List.takeWhile_append_of_pos hcs]
  cases rest with
  | nil => exact List.append_nil cs
  | cons c rest => simp [hrest c rfl]

theorem dropWhile_isDigit_append {cs rest : List Char} (hcs : ∀ c ∈ cs, c.isDigit = true)
    (hrest : EndsFigures rest) : (cs ++ rest).dropWhile Char.isDigit = rest := by
  rw [List.dropWhile_append_of_pos hcs]
  cases rest with
  | nil => rfl
  | cons c rest => simp [hrest c rfl]

end Number

/-! ## Numbers -/

namespace Sampler

variable {s s' : Stream}

/-- A drawn number lies between its bounds, also where they are all of 64 bits apart. -/
theorem between_bounds {a b n : Int64} (h : (between a b).run s = .ok (n, s')) :
    min a.toInt b.toInt ≤ n.toInt ∧ n.toInt ≤ max a.toInt b.toInt := by
  have ha := a.le_toInt
  have hb := b.le_toInt
  have ha' := a.toInt_lt
  have hb' := b.toInt_lt
  rw [between] at h
  split at h
  · have hn := n.le_toInt
    have hn' := n.toInt_lt
    omega
  · obtain ⟨index, hindex, rfl⟩ := bind_pure_eq_ok.mp h
    have hlt := below_lt (by omega) hindex
    rw [Int64.toInt_ofInt_of_le (by omega) (by omega)]
    omega

/-- The draw of a number between two bounds. -/
def Draw.within (a b : Int64) : Draw :=
  .wide (max a.toInt b.toInt - min a.toInt b.toInt + 1).toNat

/-- No word is refused where every number of 64 bits is allowed. -/
theorem Draw.not_refuses_all (s : Stream) : ¬(wide (2 ^ 64)).Refuses s := by
  intro hrefuses
  have hfirst : select? 64 (looseZone 64 (2 ^ 64)) (2 ^ 64) (s.wordAhead 0) = none :=
    hrefuses 0 (by decide)
  rw [select?, Nat.mul_mod_left, if_pos (Nat.zero_le _)] at hfirst
  cases hfirst

/-- There is no number just where the draw between the bounds refuses every word it looks at. -/
theorem between_eq_error_iff {a b : Int64} {cause : Interruption} :
    (between a b).run s = .error cause ↔ cause = .exhausted ∧ (Draw.within a b).Refuses s := by
  rw [between, Draw.within]
  split
  · rename_i hall
    rw [bind_pure_eq_error, takesWords_word64.run_eq, hall]
    exact iff_of_false nofun fun h => Draw.not_refuses_all s h.2
  · rw [bind_pure_eq_error, below_eq_error_iff]

/-- Where not all numbers of 64 bits are allowed, the index of one of them is drawn. -/
theorem between_of_few {a b : Int64} {count : Nat}
    (hcount : (max a.toInt b.toInt - min a.toInt b.toInt + 1).toNat = count)
    (hfew : count < 2 ^ 64) :
    between a b = do return Int64.ofInt (min a.toInt b.toInt + (← below count)) := by
  unfold between
  simp only [hcount]
  exact if_neg (Nat.ne_of_lt hfew)

/-- A number of at most 18 digits from some number on. -/
theorem between_of_digits {low digits : Nat} {n : Int64} (hdigits : digits ≤ 18)
    (hlow : low < 10 ^ digits)
    (h : (between (Int64.ofNat low) (Int64.ofNat (10 ^ digits - 1))).run s = .ok (n, s')) :
    (low : Int) ≤ n.toInt ∧ n.toInt < (10 ^ digits : Nat) := by
  have hpower : 10 ^ digits ≤ 10 ^ 18 := Nat.pow_le_pow_right (by decide) hdigits
  have hbounds := between_bounds h
  rw [Int64.toInt_ofNat_of_lt (by omega), Int64.toInt_ofNat_of_lt (by omega)] at hbounds
  omega

/-- How many digits a number shall have: those that are asked for, but from 1 to 18, or else a drawn
number of them from 1 to 9. -/
def width : Option Nat → Sampler Nat
  | some digits => pure (max 1 (min digits 18))
  | none => return (← below32 9) + 1

/-- The least number of a width. -/
def leastOfWidth (d : Nat) (exactly : Bool) : Nat := if exactly then 10 ^ (d - 1) else 0

theorem numberOfDigits_eq (digits : Option Nat) (exactly : Bool) :
    numberOfDigits digits exactly = width digits >>= fun d =>
      between (Int64.ofNat (leastOfWidth d exactly)) (Int64.ofNat (10 ^ d - 1)) := by
  cases digits with
  | some asked => rfl
  | none =>
    rw [width, bind_assoc]
    rfl

theorem width_eq_ok {digits : Option Nat} {d : Nat} (h : (width digits).run s = .ok (d, s')) :
    (1 ≤ d ∧ d ≤ 18) ∧ (digits = none → d ≤ 9) := by
  cases digits with
  | some asked =>
    obtain ⟨rfl, -⟩ := pure_eq_ok.mp h
    exact ⟨by omega, nofun⟩
  | none =>
    obtain ⟨index, hindex, rfl⟩ := bind_pure_eq_ok.mp h
    have hlt := below32_lt (by decide) hindex
    exact ⟨by omega, fun _ => by omega⟩

theorem leastOfWidth_lt {d : Nat} (hpos : 1 ≤ d) (exactly : Bool) :
    leastOfWidth d exactly < 10 ^ d := by
  unfold leastOfWidth
  split
  · exact Nat.pow_lt_pow_right (by decide) (Nat.sub_lt hpos (by decide))
  · exact Nat.pow_pos (by decide)

/-- A number lies between the least and the greatest one of its width. -/
theorem numberOfDigits_eq_ok {digits : Option Nat} {exactly : Bool} {n : Int64}
    (h : (numberOfDigits digits exactly).run s = .ok (n, s')) :
    ∃ d s₁, (width digits).run s = .ok (d, s₁) ∧
      (leastOfWidth d exactly : Int) ≤ n.toInt ∧ n.toInt < (10 ^ d : Nat) := by
  rw [numberOfDigits_eq] at h
  obtain ⟨d, s₁, hd, hbetween⟩ := bind_eq_ok.mp h
  obtain ⟨⟨hpos, hwidth⟩, -⟩ := width_eq_ok hd
  exact ⟨d, s₁, hd, between_of_digits hwidth (leastOfWidth_lt hpos exactly) hbetween⟩

/-- A number of exactly so many digits. -/
theorem numberOfDigits_bounds {digits : Nat} {n : Int64} (hpos : 0 < digits) (hdigits : digits ≤ 18)
    (h : (numberOfDigits (some digits) true).run s = .ok (n, s')) :
    (10 ^ (digits - 1) : Nat) ≤ n.toInt ∧ n.toInt < (10 ^ digits : Nat) := by
  obtain ⟨d, s₁, hd, hbounds⟩ := numberOfDigits_eq_ok h
  obtain ⟨hclamped, -⟩ := pure_eq_ok.mp hd
  obtain rfl : digits = d := by omega
  exact hbounds

/-! ## Digit strings -/

theorem isDigit_of_mem_chunk {index : Nat} {c : Char} (h : c ∈ chunk index) : c.isDigit = true :=
  Number.isDigit_of_mem_figures h

/-- A digit string has its length and is made of digits: each chunk gives as many as are wanted or
as it has, and the rest of the string the others. -/
theorem digitString_eq {length : Nat} {cs : List Char}
    (h : (digitString length).run s = .ok (cs, s')) :
    cs.length = length ∧ ∀ c ∈ cs, c.isDigit = true := by
  induction length using Nat.strongRecOn generalizing s cs with
  | ind length ih =>
    rw [digitString] at h
    split at h
    · rename_i hzero
      obtain ⟨rfl, -⟩ := pure_eq_ok.mp h
      exact ⟨hzero.symm, by simp⟩
    · obtain ⟨index, s₁, -, hrest⟩ := bind_eq_ok.mp h
      obtain ⟨rest, htail, rfl⟩ := bind_pure_eq_ok.mp hrest
      have hchunk := length_chunk_pos index
      obtain ⟨hlength, hdigit⟩ := ih (length - (chunk index).length) (by omega) htail
      constructor
      · rw [List.length_append, List.length_take, hlength]
        omega
      · intro c hc
        rcases List.mem_append.mp hc with hfront | hback
        · exact isDigit_of_mem_chunk (List.mem_of_mem_take hfront)
        · exact hdigit c hback

theorem head?_chunk_ne (index : Nat) : (chunk index).head? ≠ some '0' :=
  Number.head?_figures_ne (Nat.add_pos_left (by decide) index)

/-- The first chunk of a digit string has no zero in front, and at least one digit of it is kept. -/
theorem head?_digitString_ne {length : Nat} {cs : List Char}
    (h : (digitString length).run s = .ok (cs, s')) : cs.head? ≠ some '0' := by
  rw [digitString] at h
  split at h
  · obtain ⟨rfl, -⟩ := pure_eq_ok.mp h
    simp
  · rename_i hlength
    obtain ⟨index, s₁, -, hrest⟩ := bind_eq_ok.mp h
    obtain ⟨rest, -, rfl⟩ := bind_pure_eq_ok.mp hrest
    obtain ⟨c, tail, hchunk⟩ := List.exists_cons_of_length_pos (length_chunk_pos index)
    have hfront := head?_chunk_ne index
    obtain ⟨fewer, rfl⟩ := Nat.exists_eq_succ_of_ne_zero hlength
    rwa [hchunk] at hfront ⊢

end Sampler

/-! ## Examples of digits -/

/-- The value is written with exactly so many characters, all of them decimal digits. -/
def Example.HasDigits (count : Nat) (value : Example) : Prop :=
  value.display.toList.length = count ∧ ∀ c ∈ value.display.toList, c.isDigit = true

theorem Example.display_number {n : Int64} {m : Nat} (h : n.toInt = m) :
    (number n).display.toList = Number.figures m := by
  rw [display, h]
  change (Nat.repr m).toList = Number.figures m
  rw [Nat.repr, String.toList_ofList, Number.figures]

theorem Example.hasDigits_figures {n : Int64} {m : Nat} (h : n.toInt = m) :
    (number n).HasDigits (Number.figures m).length := by
  rw [HasDigits, display_number h]
  exact ⟨rfl, fun c hc => Number.isDigit_of_mem_figures hc⟩

theorem Example.hasDigits_number {n : Int64} {digits : Nat} (hpos : 0 < digits)
    (hlow : (10 ^ (digits - 1) : Nat) ≤ n.toInt) (hhigh : n.toInt < (10 ^ digits : Nat)) :
    (number n).HasDigits digits := by
  obtain ⟨m, hm⟩ : ∃ m : Nat, n.toInt = m :=
    Int.eq_ofNat_of_zero_le (Int.le_trans (Int.natCast_nonneg _) hlow)
  have hlength : (Number.figures m).length = digits :=
    Number.length_figures_eq hpos (by omega) (by omega)
  exact hlength ▸ hasDigits_figures hm

theorem Example.hasDigits_text {cs : List Char} (hdigit : ∀ c ∈ cs, c.isDigit = true) :
    (text (String.ofList cs)).HasDigits cs.length := by
  simpa [HasDigits, display] using hdigit

/-- The value is written with so many digits, and it is a number just if they are few. -/
def Example.IsOfDigits (count : Int64) (value : Example) : Prop :=
  value.HasDigits count.toInt.toNat ∧
    if count < digitsAsText then ∃ n, value = .number n else ∃ t, value = .text t

theorem Example.isOfDigits_number {count n : Int64} {s s' : Stream} (hpos : 1 ≤ count)
    (hfew : count < digitsAsText)
    (h : (Sampler.numberOfDigits (some count.toInt.toNat) true).run s = .ok (n, s')) :
    (number n).IsOfDigits count := by
  have hone : 1 ≤ count.toInt := Int64.le_iff_toInt_le.mp hpos
  have hnine : count.toInt < 9 := Int64.lt_iff_toInt_lt.mp hfew
  obtain ⟨hlow, hhigh⟩ := Sampler.numberOfDigits_bounds (by omega) (by omega) h
  exact ⟨hasDigits_number (by omega) hlow hhigh, by rw [if_pos hfew]; exact ⟨n, rfl⟩⟩

theorem Example.isOfDigits_text {count : Int64} {cs : List Char} {s s' : Stream}
    (hmany : ¬ count < digitsAsText)
    (h : (Sampler.digitString count.toInt.toNat).run s = .ok (cs, s')) :
    (text (String.ofList cs)).IsOfDigits count := by
  obtain ⟨hlength, hdigit⟩ := Sampler.digitString_eq h
  refine ⟨?_, by rw [if_neg hmany]; exact ⟨_, rfl⟩⟩
  rw [← hlength]
  exact hasDigits_text hdigit

theorem digitsReading_eq_ok {i : Input} {sampler : Sampler Example}
    (h : digitsReading i = .ok sampler) :
    ∃ count, i.integer 0 = .ok count ∧
      ∀ {s s' : Stream} {value : Example}, sampler.run s = .ok (value, s') →
        value.IsOfDigits count := by
  rw [digitsReading] at h
  cases hcount : i.integer 0 with
  | error error =>
    rw [hcount] at h
    cases h
  | ok count =>
    rw [hcount, ok_bind] at h
    refine ⟨count, rfl, ?_⟩
    intro s s' value hrun
    split at h
    · cases h
    · rename_i hrange
      rw [not_or, Int64.not_lt, Int64.not_lt] at hrange
      split at h
      · rename_i hfew
        cases h
        obtain ⟨n, hn, rfl⟩ := Sampler.map_eq_ok.mp hrun
        exact Example.isOfDigits_number hrange.1 hfew hn
      · rename_i hmany
        cases h
        obtain ⟨cs, hcs, rfl⟩ := Sampler.map_eq_ok.mp hrun
        exact Example.isOfDigits_text hmany hcs

end FieldGuide
