import Mathlib.Algebra.Order.Floor.Div
import Mathlib.Order.Interval.Finset.Nat
import FieldGuide.Proofs.NumericBounds
import FieldGuide.Proofs.Rounding
set_option autoImplicit false

/-!
# Every item is equally likely

One word after the other is looked at until one is accepted, and the index that it selects is the
index of the item.  A word selects an index if its product with the number of items lies in a
stretch behind a multiple of the word range.  All these stretches are equally long, and their length
is a multiple of the number of items, so that every index is selected by equally many words.
-/

namespace FieldGuide

namespace Sampler

/-! ## The first word that is accepted -/

/-- All words before this one are refused, and this one selects the index. -/
structure FirstSelects (accept : Nat → Option Nat) (s : Stream) (refused index : Nat) : Prop where
  refuses : ∀ earlier < refused, accept (s.wordAhead earlier) = none
  selects : accept (s.wordAhead refused) = some index

/-- An index is drawn by the first word that selects one, and the stream goes on behind that word. -/
theorem below_eq_ok_iff {n index : Nat} {s s' : Stream} :
    (below n).run s = .ok (index, s') ↔
      ∃ refused < attempts, FirstSelects (select? 64 (looseZone 64 n) n) s refused index ∧
        s' = s.skip (refused + 1) := by
  rw [below, firstAccepted_eq_ok takesWords_word64]
  refine exists_congr fun refused => and_congr_right fun _ => ?_
  constructor
  · rintro ⟨hrefuses, hselects, rfl⟩
    exact ⟨⟨hrefuses, hselects⟩, rfl⟩
  · rintro ⟨⟨hrefuses, hselects⟩, rfl⟩
    exact ⟨hrefuses, hselects, rfl⟩

/-! ## How many words select an index -/

/-- `n` times the words that are accepted for one index is less than all words. -/
theorem mul_two_pow_lt {bits n : Nat} (hn : n < 2 ^ bits) :
    n * 2 ^ (bits - Number.bitLength n) < 2 ^ bits := by
  have hlength : Number.bitLength n ≤ bits := Number.bitLength_le_iff.mpr hn
  calc n * 2 ^ (bits - Number.bitLength n)
      < 2 ^ Number.bitLength n * 2 ^ (bits - Number.bitLength n) :=
        Nat.mul_lt_mul_of_pos_right (Number.bitLength_le_iff.mp (Nat.le_refl _))
          (Nat.two_pow_pos _)
    _ = 2 ^ bits := by rw [← Nat.pow_add, Nat.add_sub_cancel' hlength]

/-- A word selects an index if its product with `n` lies in the stretch behind the multiple of the
word range with that index. -/
theorem select?_eq_some_iff {bits n word index : Nat} (hpos : 0 < n) (hn : n < 2 ^ bits) :
    select? bits (looseZone bits n) n word = some index ↔
      index * 2 ^ bits ≤ word * n ∧
        word * n < index * 2 ^ bits + n * 2 ^ (bits - Number.bitLength n) := by
  have hfit := mul_two_pow_lt hn
  have hstretch : 0 < n * 2 ^ (bits - Number.bitLength n) :=
    Nat.mul_pos hpos (Nat.two_pow_pos _)
  have hsplit := Nat.div_add_mod' (word * n) (2 ^ bits)
  unfold select? looseZone
  constructor
  · intro h
    split at h
    · rename_i haccepted
      cases h
      omega
    · cases h
  · rintro ⟨hfrom, hto⟩
    have hindex : word * n / 2 ^ bits = index := by
      refine Nat.div_eq_of_lt_le hfrom ?_
      rw [Nat.succ_mul]
      omega
    rw [hindex] at hsplit
    rw [if_pos (by omega), hindex]

section Stretch

variable {bits n index : Nat} (hn : n < 2 ^ bits) (hindex : index < n)

include hindex in
/-- The words whose products reach a stretch are those from some word on, and the words whose
products stay in it are as many as there are multiples of `n` in the stretch. -/
theorem exists_first_selecting (stretch : Nat) : ∃ first, ∀ word,
    (first ≤ word ↔ index * 2 ^ bits ≤ word * n) ∧
      (word < first + stretch ↔ word * n < index * 2 ^ bits + n * stretch) := by
  have hpos : 0 < n := Nat.zero_lt_of_lt hindex
  have hfirst (word : Nat) : index * 2 ^ bits ⌈/⌉ n ≤ word ↔ index * 2 ^ bits ≤ word * n := by
    rw [ceilDiv_le_iff_le_mul hpos, Nat.mul_comm n]
  refine ⟨index * 2 ^ bits ⌈/⌉ n, fun word => ⟨hfirst word, ?_⟩⟩
  rcases Nat.lt_or_ge word stretch with hbefore | hbehind
  · have hproduct : word * n < n * stretch := by
      rw [Nat.mul_comm n]
      exact Nat.mul_lt_mul_of_pos_right hbefore hpos
    exact iff_of_true (by omega) (by omega)
  · obtain ⟨more, rfl⟩ := Nat.exists_eq_add_of_le hbehind
    have hmore := hfirst more
    rw [Nat.add_mul, Nat.mul_comm stretch]
    omega

include hn hindex

/-- A product in the stretch of an index is the product of a word in the range. -/
theorem lt_of_product_lt {word : Nat}
    (hto : word * n < index * 2 ^ bits + n * 2 ^ (bits - Number.bitLength n)) :
    word < 2 ^ bits := by
  have hfit := mul_two_pow_lt hn
  have hlast : (index + 1) * 2 ^ bits ≤ n * 2 ^ bits := Nat.mul_le_mul_right _ hindex
  rw [Nat.succ_mul] at hlast
  refine Nat.lt_of_mul_lt_mul_right (a := n) ?_
  rw [Nat.mul_comm (2 ^ bits)]
  omega

/-- Every index is selected by equally many words. -/
theorem card_selecting :
    ((Finset.range (2 ^ bits)).filter fun word =>
      select? bits (looseZone bits n) n word = some index).card =
        2 ^ (bits - Number.bitLength n) := by
  have hpos : 0 < n := Nat.zero_lt_of_lt hindex
  obtain ⟨first, hfirst⟩ := @exists_first_selecting bits n index hindex
    (2 ^ (bits - Number.bitLength n))
  have hset : ((Finset.range (2 ^ bits)).filter fun word =>
      select? bits (looseZone bits n) n word = some index) =
        Finset.Ico first (first + 2 ^ (bits - Number.bitLength n)) := by
    ext word
    rw [Finset.mem_filter, Finset.mem_range, select?_eq_some_iff hpos hn, Finset.mem_Ico,
      (hfirst word).1, (hfirst word).2]
    exact and_iff_right_of_imp fun h => lt_of_product_lt hn hindex h.2
  rw [hset, Nat.card_Ico, Nat.add_sub_cancel_left]

end Stretch

/-! ## Selecting in words -/

/-- The zeros in front of a number in 64 bits. -/
theorem sub_bitLength_eq_clz {n : BitVec 64} (hne : n ≠ 0#64) :
    64 - Number.bitLength n.toNat = n.clz.toNat := by
  have hlow := BitVec.two_pow_sub_clz_le_toNat_of_ne_zero (by decide) hne
  have hhigh := @BitVec.toNat_lt_two_pow_sub_clz 64 n
  rw [← Number.lt_bitLength_iff] at hlow
  rw [← Number.bitLength_le_iff] at hhigh
  omega

/-- The index below `n` that a word of 64 bits selects, if the word is accepted. -/
def indexOf? (n word : Nat) : Option Nat := select? 64 (looseZone 64 n) n word

/-- The same in words: the product has twice as many bits, its low half is compared with `n` shifted
to the top, less one, and its high half is the index. -/
def indexInWords? (n word : BitVec 64) : Option Nat :=
  let product := word.setWidth 128 * n.setWidth 128
  if product.setWidth 64 ≤ (n <<< n.clz) - 1#64 then some ((product >>> 64).setWidth 64).toNat
  else none

theorem toNat_product (n word : BitVec 64) :
    (word.setWidth 128 * n.setWidth 128).toNat = word.toNat * n.toNat := by
  have hlt : word.toNat * n.toNat < 2 ^ 64 * 2 ^ 64 := Nat.mul_lt_mul'' word.isLt n.isLt
  rw [BitVec.toNat_mul_of_lt, BitVec.toNat_setWidth_of_le (by decide),
    BitVec.toNat_setWidth_of_le (by decide)]
  rwa [BitVec.toNat_setWidth_of_le (by decide), BitVec.toNat_setWidth_of_le (by decide)]

/-- Nothing is lost when `n` is shifted to the top. -/
theorem toNat_zone {n : BitVec 64} (hne : n ≠ 0#64) :
    ((n <<< n.clz) - 1#64).toNat = looseZone 64 n.toNat := by
  have hpos : 0 < n.toNat := Nat.pos_of_ne_zero fun hzero => hne (BitVec.eq_of_toNat_eq hzero)
  have htop := mul_two_pow_lt n.isLt
  rw [sub_bitLength_eq_clz hne] at htop
  have hshift : (n <<< n.clz).toNat = n.toNat * 2 ^ n.clz.toNat := by
    rw [BitVec.shiftLeft_eq', BitVec.toNat_shiftLeft, Nat.shiftLeft_eq, Nat.mod_eq_of_lt htop]
  have hone : 1#64 ≤ n <<< n.clz := by
    rw [BitVec.le_def, hshift]
    exact Nat.mul_pos hpos (Nat.two_pow_pos _)
  rw [BitVec.toNat_sub_of_le hone, hshift, looseZone, sub_bitLength_eq_clz hne]
  rfl

theorem indexOf?_eq_inWords {n : BitVec 64} (hne : n ≠ 0#64) (word : BitVec 64) :
    indexOf? n.toNat word.toNat = indexInWords? n word := by
  have hlt : word.toNat * n.toNat / 2 ^ 64 < 2 ^ 64 :=
    Nat.div_lt_of_lt_mul (Nat.mul_lt_mul'' word.isLt n.isLt)
  have hlow : ((word.setWidth 128 * n.setWidth 128).setWidth 64).toNat =
      word.toNat * n.toNat % 2 ^ 64 := by
    rw [BitVec.toNat_setWidth, toNat_product]
  have hhigh : (((word.setWidth 128 * n.setWidth 128) >>> 64).setWidth 64).toNat =
      word.toNat * n.toNat / 2 ^ 64 := by
    rw [BitVec.toNat_setWidth, BitVec.toNat_ushiftRight, toNat_product,
      Nat.shiftRight_eq_div_pow, Nat.mod_eq_of_lt hlt]
  unfold indexOf? select? indexInWords?
  simp only [BitVec.le_def, hlow, hhigh, toNat_zone hne]

/-- The words of 64 bits that select an index. -/
def wordsFor (n index : Nat) : Finset Nat :=
  (Finset.range (2 ^ 64)).filter fun word => indexOf? n word = some index

/-! ## Choosing an item -/

theorem FirstSelects.lt {n refused index : Nat} {s : Stream} (hpos : 0 < n)
    (h : FirstSelects (indexOf? n) s refused index) : index < n :=
  select?_lt hpos (s.skip refused).next64.1.toNat_lt h.selects

variable {α : Type}

/-- Choosing from some items means to look for the first word that selects one of them; without
items nothing is taken from the stream. -/
theorem element_eq_ok {items : List α} {s s' : Stream} {choice : Option α} :
    (element items).run s = .ok (choice, s') ↔
      items = [] ∧ choice = none ∧ s' = s ∨
        ∃ refused < attempts, ∃ index, ∃ _ : index < items.length,
          FirstSelects (indexOf? items.length) s refused index ∧ choice = some items[index] ∧
            s' = s.skip (refused + 1) := by
  cases items with
  | nil =>
    rw [element, pure_eq_ok, eq_comm, @eq_comm _ s]
    refine ⟨fun h => .inl ⟨rfl, h⟩, ?_⟩
    rintro (⟨-, h⟩ | ⟨_, -, index, hindex, -⟩)
    · exact h
    · exact absurd hindex (Nat.not_lt_zero index)
  | cons item items =>
    rw [element, bind_pure_eq_ok]
    constructor
    · rintro ⟨index, hindex, rfl⟩
      obtain ⟨refused, hrefused, hselects, rfl⟩ := below_eq_ok_iff.mp hindex
      have hlt : index < (item :: items).length := hselects.lt (Nat.succ_pos _)
      exact .inr ⟨refused, hrefused, index, hlt, hselects, List.getElem?_eq_getElem hlt, rfl⟩
    · rintro (⟨hnil, -⟩ | ⟨refused, hrefused, index, hlt, hselects, rfl, rfl⟩)
      · cases hnil
      · refine ⟨index, below_eq_ok_iff.mpr ⟨refused, hrefused, hselects, rfl⟩, ?_⟩
        exact (List.getElem?_eq_getElem hlt).symm

/-- A choice does not return only where there are items and every word that is looked at is
refused. -/
theorem element_eq_error {items : List α} {s : Stream} {cause : Interruption} :
    (element items).run s = .error cause ↔
      items ≠ [] ∧ cause = .exhausted ∧
        ∀ words < attempts, indexOf? items.length (s.wordAhead words) = none := by
  cases items with
  | nil => exact iff_of_false pure_ne_error fun h => h.1 rfl
  | cons item items =>
    rw [element, bind_pure_eq_error, and_iff_right (List.cons_ne_nil item items)]
    exact below_eq_error_iff

end Sampler

/-! ## The example of a listed value -/

open Sampler

variable {templates : Templates} {setting : Setting} {field : String} {parameters : List String}
  {e : Entry} {s : Stream}

theorem Exemplifying.plan_member {i : Input} (hne : i.parameters ≠ []) :
    member.plan i =
      .ok (.draw ((fun item => .text (item.getD "")) <$> element i.parameters)) := by
  have hlist : i.list = .ok i.parameters := by
    unfold Input.list
    split
    · rename_i hnil
      exact absurd hnil hne
    · rfl
  rw [plan, hlist]
  rfl

/-- The example of a listed value is the item of an index, chosen as items are. -/
theorem apply_inList (hne : parameters ≠ []) :
    Kind.inList.BringsAbout templates setting field parameters e s
        ((Draw.wide parameters.length).Refuses s) fun a s' =>
      ∃ refused < attempts, ∃ index, ∃ _ : index < parameters.length,
        FirstSelects (indexOf? parameters.length) s refused index ∧
          a.effects.exemplifies = true ∧ a.entry.value = .text parameters[index] ∧
            s' = s.skip (refused + 1) := by
  obtain ⟨arguments, hfound⟩ := Kind.findings_of_plan (k := .inList)
    (i := Kind.inList.input setting field parameters e.type) (by decide) rfl
    (Exemplifying.plan_member hne)
  refine Kind.bringsAbout_of_draw hfound
    (fun _ h => ⟨(element_eq_error.mp h).2.1, (element_eq_error.mp h).2.2⟩) ?_
  intro choice s' hdraw
  rcases element_eq_ok.mp hdraw with
    ⟨hnil, -⟩ | ⟨refused, hrefused, index, hlt, hselects, rfl, rfl⟩
  · exact absurd hnil hne
  · exact ⟨refused, hrefused, index, hlt, hselects, rfl, rfl, rfl⟩

/-- Choosing an item prefers none: a word selects an index or is refused, the first word that
selects one decides, and each index is selected by the same number of words, a power of two. -/
theorem element_uniform {n : Nat} (hn : n < 2 ^ 64) :
    (∀ index < n, (wordsFor n index).card = 2 ^ (BitVec.ofNat 64 n).clz.toNat) ∧
      (0 < n → ∀ word : BitVec 64,
        indexOf? n word.toNat = indexInWords? (BitVec.ofNat 64 n) word) ∧
      (∀ (α : Type) (items : List α), items.length = n →
        (∀ s choice s', (element items).run s = .ok (choice, s') ↔
          items = [] ∧ choice = none ∧ s' = s ∨
            ∃ refused < attempts, ∃ index, ∃ _ : index < items.length,
              FirstSelects (indexOf? n) s refused index ∧ choice = some items[index] ∧
                s' = s.skip (refused + 1)) ∧
        (∀ s cause, (element items).run s = .error cause ↔
          items ≠ [] ∧ cause = .exhausted ∧
            ∀ words < attempts, indexOf? n (s.wordAhead words) = none)) ∧
      (∀ parameters, parameters ≠ [] → parameters.length = n → ∀ templates setting field e s,
        Kind.inList.BringsAbout templates setting field parameters e s
            ((Draw.wide n).Refuses s) fun a s' =>
          ∃ refused < attempts, ∃ index, ∃ _ : index < parameters.length,
            FirstSelects (indexOf? n) s refused index ∧ a.effects.exemplifies = true ∧
              a.entry.value = .text parameters[index] ∧ s' = s.skip (refused + 1)) := by
  have hnat : (BitVec.ofNat 64 n).toNat = n := by
    rw [BitVec.toNat_ofNat, Nat.mod_eq_of_lt hn]
  have hword (hpos : 0 < n) : BitVec.ofNat 64 n ≠ 0#64 := by
    intro hzero
    rw [hzero] at hnat
    exact absurd hnat (Nat.ne_of_lt hpos)
  refine ⟨fun index hindex => ?_, fun hpos word => ?_, ?_, ?_⟩
  · rw [← sub_bitLength_eq_clz (hword (Nat.zero_lt_of_lt hindex)), hnat]
    exact card_selecting hn hindex
  · rw [← indexOf?_eq_inWords (hword hpos), hnat]
  · rintro α items rfl
    exact ⟨fun s choice s' => element_eq_ok, fun s cause => element_eq_error⟩
  · rintro parameters hne rfl templates setting field e s
    exact apply_inList hne

/-- Three items, so that some words are refused: of the words ahead, the first one is, and the second
one selects the middle item. -/
theorem element_uniform_three :
    (∀ index < 3, (wordsFor 3 index).card = 2 ^ 62) ∧
      (indexOf? 3 0x5555555555555555 = none ∧ indexOf? 3 0x5555555555555556 = some 1) ∧
        ∃ a s', (Kind.inList.apply (fun _ => "") .fixed "f" ["a", "b", "c"] {}).run (.ofText "d") =
            .ok (a, s') ∧
          FirstSelects (indexOf? 3) (.ofText "d") 1 1 ∧ a.effects.exemplifies = true ∧
            a.entry.value = .text "b" ∧ s' = (Stream.ofText "d").skip 2 := by
  obtain ⟨hcount, -, -, hlisted⟩ := element_uniform (n := 3) (by decide)
  have hclz : (BitVec.ofNat 64 3).clz.toNat = 62 := by decide
  rw [hclz] at hcount
  refine ⟨hcount, ⟨by decide, by decide⟩, ?_⟩
  have hvalue : ((Kind.inList.apply (fun _ => "") .fixed "f" ["a", "b", "c"] {}).run
      (.ofText "d")).toOption.map (fun p => (p.1.entry.value, p.2)) =
        some (.text "b", (Stream.ofText "d").skip 2) := by
    decide +kernel
  obtain ⟨a, s', hrun, ⟨refused, -, index, hindex, hselects, hexemplifies, hitem, hskip⟩, hshown⟩ :=
    (hlisted ["a", "b", "c"] (List.cons_ne_nil _ _) rfl (fun _ => "") .fixed "f" {}
      (.ofText "d")).of_evaluated hvalue
  obtain ⟨htext, hplace⟩ := Prod.mk.inj hshown
  obtain rfl : refused = 1 := by
    have hposition := congrArg Stream.position (hskip.symm.trans hplace)
    simp only [Stream.skip] at hposition
    omega
  obtain rfl : index = 1 := by
    have hletters : ∀ i, ["a", "b", "c"].get i = "b" → i.val = 1 := by decide
    exact hletters ⟨index, hindex⟩ (Example.text.inj (hitem.symm.trans htext))
  exact ⟨a, s', hrun, hselects, hexemplifies, hitem, hskip⟩

end FieldGuide
