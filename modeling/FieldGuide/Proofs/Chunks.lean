import FieldGuide.Proofs.Digits
set_option autoImplicit false

/-!
# The chunks of a digit string

A digit string is cut from chunks that are drawn in a row, until they reach its length.  Every chunk
has nine digits at least, so their number is bounded; and as they do not depend on the length that
is asked for, a shorter string from the same place of the stream is the front of a longer one.
-/

namespace FieldGuide.Sampler

variable {n length : Nat} {indices : List Nat} {cs : List Char} {s s' : Stream}

/-! ## Draws in a row -/

/-- Draws below `n` that follow one another give these indices. -/
inductive Drawn (n : Nat) : Stream → List Nat → Stream → Prop where
  | nil (s : Stream) : Drawn n s [] s
  | cons {s s₁ s' : Stream} {index : Nat} {indices : List Nat}
      (hdraw : (below n).run s = .ok (index, s₁)) (hrest : Drawn n s₁ indices s') :
      Drawn n s (index :: indices) s'

theorem drawn_nil_iff : Drawn n s [] s' ↔ s = s' := by
  constructor
  · intro h
    cases h
    rfl
  · intro h
    rw [h]
    exact .nil s'

/-- The first few of some draws have taken place as well. -/
theorem Drawn.take (h : Drawn n s indices s') (count : Nat) :
    ∃ s₁, Drawn n s (indices.take count) s₁ := by
  induction h generalizing count with
  | nil s => exact ⟨s, by rw [List.take_nil]; exact .nil s⟩
  | @cons s s₁ s' index indices hdraw _ ih =>
    cases count with
    | zero => exact ⟨s, .nil s⟩
    | succ count =>
      obtain ⟨s₂, hfew⟩ := ih count
      exact ⟨s₂, .cons hdraw hfew⟩

/-! ## Chunks that reach a length -/

/-- The digits of some chunks. -/
def chunks (indices : List Nat) : List Char := indices.flatMap chunk

theorem length_chunks_cons (index : Nat) (indices : List Nat) :
    (chunks (index :: indices)).length = (chunk index).length + (chunks indices).length := by
  rw [chunks, List.flatMap_cons, List.length_append, chunks]

/-- A cut of some chunks goes through the first one and, if that is too short, through the rest. -/
theorem take_chunks_cons (length index : Nat) (indices : List Nat) :
    (chunks (index :: indices)).take length =
      (chunk index).take length ++ (chunks indices).take (length - (chunk index).length) := by
  rw [chunks, List.flatMap_cons, List.take_append, chunks]

/-- No chunk has fewer than nine digits. -/
theorem nine_le_length_chunk (index : Nat) : 9 ≤ (chunk index).length := by
  refine Nat.lt_of_not_le (fun hshort => ?_)
  have hsmall : chunkLow + index < 10 ^ 8 :=
    (Nat.length_toDigits_le_iff (by decide) (by decide)).mp hshort
  simp only [chunkLow] at hsmall
  omega

theorem nine_mul_le_length_chunks (indices : List Nat) :
    9 * indices.length ≤ (chunks indices).length := by
  induction indices with
  | nil => exact Nat.zero_le _
  | cons index indices ih =>
    have hchunk := nine_le_length_chunk index
    rw [length_chunks_cons, List.length_cons]
    omega

/-- The chunks reach the length, and without the last of them they would not. -/
structure Reach (length : Nat) (indices : List Nat) : Prop where
  enough : length ≤ (chunks indices).length
  needed : ∀ fewer < indices.length, (chunks (indices.take fewer)).length < length

theorem reach_nil_iff : Reach length [] ↔ length = 0 := by
  constructor
  · intro h
    exact Nat.le_zero.mp h.enough
  · intro h
    exact ⟨Nat.le_of_eq h, nofun⟩

/-- The chunks behind the first one reach what that one leaves. -/
theorem reach_cons_iff {index : Nat} :
    Reach length (index :: indices) ↔
      length ≠ 0 ∧ Reach (length - (chunk index).length) indices := by
  constructor
  · intro ⟨henough, hneeded⟩
    rw [length_chunks_cons] at henough
    have hfirst : 0 < length := hneeded 0 (Nat.succ_pos _)
    refine ⟨by omega, by omega, ?_⟩
    intro fewer hfewer
    have hlater := hneeded (fewer + 1) (Nat.succ_lt_succ hfewer)
    rw [List.take_succ_cons, length_chunks_cons] at hlater
    omega
  · intro ⟨hlength, henough, hneeded⟩
    refine ⟨by rw [length_chunks_cons]; omega, ?_⟩
    intro fewer hfewer
    cases fewer with
    | zero => exact Nat.pos_of_ne_zero hlength
    | succ fewer =>
      have hlater := hneeded fewer (Nat.lt_of_succ_lt_succ hfewer)
      rw [List.take_succ_cons, length_chunks_cons]
      omega

/-- Nine digits a chunk bound their number. -/
theorem Reach.length_le (h : Reach length indices) : indices.length ≤ (length + 8) / 9 := by
  cases hcount : indices.length with
  | zero => exact Nat.zero_le _
  | succ fewer =>
    have hshort := h.needed fewer (by omega)
    have hnine := nine_mul_le_length_chunks (indices.take fewer)
    rw [List.length_take] at hnine
    omega

/-- Some of the chunks at the front reach a smaller length. -/
theorem Reach.exists_take (h : Reach length indices) {shorter : Nat} (hle : shorter ≤ length) :
    ∃ count, Reach shorter (indices.take count) := by
  induction indices generalizing length shorter with
  | nil =>
    have hzero := reach_nil_iff.mp h
    exact ⟨0, reach_nil_iff.mpr (by omega)⟩
  | cons index indices ih =>
    rcases Nat.eq_zero_or_pos shorter with hzero | hpos
    · exact ⟨0, reach_nil_iff.mpr hzero⟩
    · obtain ⟨count, hcount⟩ := ih (reach_cons_iff.mp h).2 (Nat.sub_le_sub_right hle _)
      exact ⟨count + 1, reach_cons_iff.mpr ⟨Nat.ne_of_gt hpos, hcount⟩⟩

/-- What is cut from enough chunks is not changed by the chunks behind them. -/
theorem Reach.take_chunks {count : Nat} (h : Reach length (indices.take count)) :
    (chunks (indices.take count)).take length = (chunks indices).take length := by
  have hsplit : chunks indices = chunks (indices.take count) ++ chunks (indices.drop count) := by
    rw [chunks, chunks, chunks, ← List.flatMap_append, List.take_append_drop]
  rw [hsplit, List.take_append_of_le_length h.enough]

/-! ## Digit strings -/

/-- A digit string is what is cut from the drawn chunks that reach its length. -/
theorem digitString_eq_ok :
    (digitString length).run s = .ok (cs, s') ↔
      ∃ indices, Drawn chunkCount s indices s' ∧ Reach length indices ∧
        cs = (chunks indices).take length := by
  -- every chunk has a digit, so that a shorter string is left behind the first one
  induction length using Nat.strongRecOn generalizing s cs with
  | ind length ih =>
    rw [digitString]
    split
    · rename_i hzero
      subst hzero
      rw [pure_eq_ok]
      constructor
      · rintro ⟨hnil, hs⟩
        exact ⟨[], drawn_nil_iff.mpr hs, reach_nil_iff.mpr rfl, hnil.symm⟩
      · rintro ⟨indices, hdrawn, hreach, hcs⟩
        cases indices with
        | nil => exact ⟨hcs.symm, drawn_nil_iff.mp hdrawn⟩
        | cons index indices => exact absurd rfl (reach_cons_iff.mp hreach).1
    · rename_i hlength
      have hless (index : Nat) : length - (chunk index).length < length := by
        have hchunk := length_chunk_pos index
        omega
      rw [bind_eq_ok]
      constructor
      · rintro ⟨index, s₁, hdraw, hrest⟩
        obtain ⟨rest, htail, rfl⟩ := bind_pure_eq_ok.mp hrest
        obtain ⟨indices, hdrawn, hreach, rfl⟩ := (ih _ (hless index)).mp htail
        exact ⟨index :: indices, .cons hdraw hdrawn, reach_cons_iff.mpr ⟨hlength, hreach⟩,
          (take_chunks_cons length index indices).symm⟩
      · rintro ⟨indices, hdrawn, hreach, hcs⟩
        cases hdrawn with
        | nil => exact absurd (reach_nil_iff.mp hreach) hlength
        | @cons _ s₁ _ index indices hdraw hdrawn =>
          have htail := (ih _ (hless index)).mpr ⟨indices, hdrawn, (reach_cons_iff.mp hreach).2, rfl⟩
          exact ⟨index, s₁, hdraw,
            bind_pure_eq_ok.mpr ⟨_, htail, hcs.trans (take_chunks_cons length index indices)⟩⟩

/-- No digit string comes about only where the chunks that are drawn stay behind its length and one
more cannot be drawn. -/
theorem digitString_eq_error {cause : Interruption}
    (h : (digitString length).run s = .error cause) :
    ∃ indices s₁, Drawn chunkCount s indices s₁ ∧ (chunks indices).length < length ∧
      (below chunkCount).run s₁ = .error cause := by
  induction length using Nat.strongRecOn generalizing s with
  | ind length ih =>
    rw [digitString] at h
    split at h
    · exact absurd h pure_ne_error
    · rename_i hlength
      rcases bind_eq_error.mp h with hdraw | ⟨index, s₁, hdraw, hrest⟩
      · exact ⟨[], s, .nil s, Nat.pos_of_ne_zero hlength, hdraw⟩
      · have hchunk := length_chunk_pos index
        obtain ⟨indices, s₂, hdrawn, hshort, hlast⟩ :=
          ih _ (by omega) (bind_pure_eq_error.mp hrest)
        refine ⟨index :: indices, s₂, .cons hdraw hdrawn, ?_, hlast⟩
        rw [length_chunks_cons]
        omega

/-- Where a digit string comes about, so do all shorter ones, as its fronts. -/
theorem digitString_take {shorter : Nat} (hle : shorter ≤ length)
    (h : (digitString length).run s = .ok (cs, s')) :
    ∃ s₁, (digitString shorter).run s = .ok (cs.take shorter, s₁) := by
  obtain ⟨indices, hdrawn, hreach, rfl⟩ := digitString_eq_ok.mp h
  obtain ⟨count, hfew⟩ := hreach.exists_take hle
  obtain ⟨s₁, hfront⟩ := hdrawn.take count
  refine ⟨s₁, digitString_eq_ok.mpr ⟨indices.take count, hfront, hfew, ?_⟩⟩
  rw [hfew.take_chunks, List.take_take, Nat.min_eq_left hle]

/-- A digit string has its length, consists of digits without a zero in front, and takes one draw
for nine digits at most; the strings of all lengths from one place of a stream are fronts of one
another.  There is none only if one of those draws does not return. -/
theorem digitString_cut_from_chunks (s : Stream) (length : Nat) :
    ((∃ indices cs s', (digitString length).run s = .ok (cs, s') ∧
          Drawn chunkCount s indices s' ∧ indices.length ≤ (length + 8) / 9 ∧
          cs = (chunks indices).take length ∧ cs.length = length ∧
          (∀ c ∈ cs, c.isDigit = true) ∧ cs.head? ≠ some '0' ∧
          ∀ shorter ≤ length,
            ∃ s₁, (digitString shorter).run s = .ok (cs.take shorter, s₁)) ∨
        ∃ indices s₁, (digitString length).run s = .error .exhausted ∧
          Drawn chunkCount s indices s₁ ∧ indices.length < (length + 8) / 9 ∧
          (below chunkCount).run s₁ = .error .exhausted) ∧
      (digitString 0).run s = .ok ([], s) := by
  constructor
  · cases h : (digitString length).run s with
    | ok p =>
      obtain ⟨cs, s'⟩ := p
      obtain ⟨indices, hdrawn, hreach, hcs⟩ := digitString_eq_ok.mp h
      obtain ⟨hlength, hdigit⟩ := digitString_eq h
      exact .inl ⟨indices, cs, s', rfl, hdrawn, hreach.length_le, hcs, hlength, hdigit,
        head?_digitString_ne h, fun _ hle => digitString_take hle h⟩
    | error cause =>
      obtain rfl := (steady_digitString length).exhausted h
      obtain ⟨indices, s₁, hdrawn, hshort, hlast⟩ := digitString_eq_error h
      have hnine := nine_mul_le_length_chunks indices
      exact .inr ⟨indices, s₁, rfl, hdrawn, by omega, hlast⟩
  · exact digitString_eq_ok.mpr ⟨[], .nil s, reach_nil_iff.mpr rfl, rfl⟩

/-- A chunk of ten digits is just enough for ten of them, and for nine it is cut. -/
theorem digitString_cut_from_chunks_nine :
    ∃ s₁ s₂, (digitString 10).run (.ofText "a") = .ok ("1099792541".toList, s₁) ∧ 9 ≤ 10 ∧
      (digitString 9).run (.ofText "a") = .ok ("109979254".toList, s₂) := by
  have hdraw : (below chunkCount).run (.ofText "a") = .ok (999792541, ⟨3904355907, 2⟩) :=
    eq_ok_of_toOption (by decide +kernel)
  have hreach : Reach 10 [999792541] :=
    reach_cons_iff.mpr ⟨by decide, reach_nil_iff.mpr (by decide)⟩
  have hten := digitString_eq_ok.mpr ⟨_, .cons hdraw (.nil _), hreach, rfl⟩
  obtain ⟨hcut | ⟨_, _, hnone, -⟩, -⟩ := digitString_cut_from_chunks (.ofText "a") 10
  · obtain ⟨_, cs, s', hrun, -, -, -, -, -, -, hshorter⟩ := hcut
    rw [hten] at hrun
    cases hrun
    obtain ⟨s₂, hnine⟩ := hshorter 9 (by decide)
    exact ⟨_, s₂, hten, by decide, hnine⟩
  · rw [hten] at hnone
    cases hnone

end FieldGuide.Sampler
