import FieldGuide.Sample
set_option autoImplicit false

/-!
# What a draw can do to its stream

A sampler that returns has only moved on in the sequence of its seed.  One that does not return has
come to a draw that refuses every word it looks at, and the words that a draw looks at can be told
from the sequence alone.  Both facts are one property, `Steady`, that every way of putting samplers
together keeps.
-/

namespace FieldGuide

/-! ## The words ahead -/

namespace Stream

/-- The place behind some words of 64 bits. -/
def skip (s : Stream) (words : Nat) : Stream := ⟨s.seed, s.position + 2 * words⟩

/-- The word of 64 bits behind some others. -/
def wordAhead (s : Stream) (words : Nat) : Nat := (s.skip words).next64.1.toNat

/-- The place behind some words of 32 bits. -/
def skipHalf (s : Stream) (words : Nat) : Stream := ⟨s.seed, s.position + words⟩

/-- The word of 32 bits behind some others. -/
def halfAhead (s : Stream) (words : Nat) : Nat := (s.skipHalf words).next32.1.toNat

theorem skip_one_skip (s : Stream) (words : Nat) : (s.skip 1).skip words = s.skip (words + 1) := by
  simp only [skip, mk.injEq, true_and]
  omega

theorem skipHalf_one_skipHalf (s : Stream) (words : Nat) :
    (s.skipHalf 1).skipHalf words = s.skipHalf (words + 1) := by
  simp only [skipHalf, mk.injEq, true_and]
  omega

end Stream

namespace Sampler

variable {α β : Type}

/-! ## Samplers in a row -/

theorem bind_eq_ok {x : Sampler α} {f : α → Sampler β} {s s'' : Stream} {b : β} :
    (x >>= f).run s = .ok (b, s'') ↔
      ∃ a s', x.run s = .ok (a, s') ∧ (f a).run s' = .ok (b, s'') := by
  rw [StateT.run_bind]
  cases h : x.run s with
  | error cause => simp [bind, Except.bind]
  | ok p =>
    obtain ⟨a, s'⟩ := p
    constructor
    · intro hb
      exact ⟨a, s', rfl, hb⟩
    · rintro ⟨_, _, heq, hb⟩
      cases heq
      exact hb

theorem bind_eq_error {x : Sampler α} {f : α → Sampler β} {s : Stream} {cause : Interruption} :
    (x >>= f).run s = .error cause ↔
      x.run s = .error cause ∨ ∃ a s', x.run s = .ok (a, s') ∧ (f a).run s' = .error cause := by
  rw [StateT.run_bind]
  cases h : x.run s with
  | error cause' => simp [bind, Except.bind]
  | ok p =>
    obtain ⟨a, s'⟩ := p
    constructor
    · intro hb
      exact .inr ⟨a, s', rfl, hb⟩
    · rintro (heq | ⟨_, _, heq, hb⟩)
      · cases heq
      · cases heq
        exact hb

/-- A result that has been evaluated is the one that was returned. -/
theorem eq_ok_of_toOption {x : Except Interruption α} {a : α} (h : x.toOption = some a) :
    x = .ok a := by
  cases x with
  | error cause => cases h
  | ok b => exact congrArg Except.ok (Option.some.inj h)

/-- What follows a sampler matters only for what the sampler can return. -/
theorem bind_congr_of_ok {x : Sampler α} {f g : α → Sampler β}
    (h : ∀ s a s', x.run s = .ok (a, s') → f a = g a) : x >>= f = x >>= g := by
  funext s
  change (x >>= f).run s = (x >>= g).run s
  rw [StateT.run_bind, StateT.run_bind]
  cases hrun : x.run s with
  | error cause => rfl
  | ok p => exact congrArg (fun y => y.run p.2) (h s p.1 p.2 hrun)

theorem pure_eq_ok {a b : α} {s s' : Stream} :
    (pure a : Sampler α).run s = .ok (b, s') ↔ a = b ∧ s = s' := by
  rw [StateT.run_pure]
  simp [pure, Except.pure]

theorem pure_ne_error {a : α} {s : Stream} {cause : Interruption} :
    (pure a : Sampler α).run s ≠ .error cause := by
  rw [StateT.run_pure]
  simp [pure, Except.pure]

theorem bind_pure_eq_ok {x : Sampler α} {g : α → β} {s s' : Stream} {b : β} :
    (x >>= fun a => pure (g a)).run s = .ok (b, s') ↔ ∃ a, x.run s = .ok (a, s') ∧ b = g a := by
  rw [bind_eq_ok]
  constructor
  · rintro ⟨a, s₁, hx, hpure⟩
    obtain ⟨rfl, rfl⟩ := pure_eq_ok.mp hpure
    exact ⟨a, hx, rfl⟩
  · rintro ⟨a, hx, rfl⟩
    exact ⟨a, s', hx, pure_eq_ok.mpr ⟨rfl, rfl⟩⟩

theorem bind_pure_eq_error {x : Sampler α} {g : α → β} {s : Stream} {cause : Interruption} :
    (x >>= fun a => pure (g a)).run s = .error cause ↔ x.run s = .error cause := by
  rw [bind_eq_error]
  refine or_iff_left ?_
  rintro ⟨a, s₁, -, hpure⟩
  exact pure_ne_error hpure

theorem map_eq_ok {x : Sampler α} {g : α → β} {s s' : Stream} {b : β} :
    (g <$> x).run s = .ok (b, s') ↔ ∃ a, x.run s = .ok (a, s') ∧ b = g a := by
  rw [map_eq_pure_bind, bind_pure_eq_ok]

theorem map_eq_error {x : Sampler α} {g : α → β} {s : Stream} {cause : Interruption} :
    (g <$> x).run s = .error cause ↔ x.run s = .error cause := by
  rw [map_eq_pure_bind, bind_pure_eq_error]

theorem lift_eq_ok {x : Except Interruption α} {a : α} {s s' : Stream} :
    (StateT.lift x : Sampler α).run s = .ok (a, s') ↔ x = .ok a ∧ s = s' := by
  cases x <;> simp [StateT.run, StateT.lift, bind, Except.bind, pure, Except.pure]

theorem lift_eq_error {x : Except Interruption α} {s : Stream} {cause : Interruption} :
    (StateT.lift x : Sampler α).run s = .error cause ↔ x = .error cause := by
  cases x <;> simp [StateT.run, StateT.lift, bind, Except.bind, pure, Except.pure]

/-! ## Looking for a word -/

/-- The sampler takes one word of a sequence after the other. -/
structure TakesWords (word : Sampler Nat) (ahead : Stream → Nat → Nat)
    (skip : Stream → Nat → Stream) : Prop where
  run_eq (s : Stream) : word.run s = .ok (ahead s 0, skip s 1)
  ahead_skip (s : Stream) (words : Nat) : ahead (skip s 1) words = ahead s (words + 1)
  skip_skip (s : Stream) (words : Nat) : skip (skip s 1) words = skip s (words + 1)
  seed_skip (s : Stream) (words : Nat) : (skip s words).seed = s.seed

theorem takesWords_word64 : TakesWords word64 Stream.wordAhead Stream.skip where
  run_eq _ := rfl
  ahead_skip s words := by rw [Stream.wordAhead, s.skip_one_skip, Stream.wordAhead]
  skip_skip := Stream.skip_one_skip
  seed_skip _ _ := rfl

theorem takesWords_word32 : TakesWords word32 Stream.halfAhead Stream.skipHalf where
  run_eq _ := rfl
  ahead_skip s words := by rw [Stream.halfAhead, s.skipHalf_one_skipHalf, Stream.halfAhead]
  skip_skip := Stream.skipHalf_one_skipHalf
  seed_skip _ _ := rfl

section Search

variable {accept : Nat → Option Nat} {word : Sampler Nat} {ahead : Stream → Nat → Nat}
  {skip : Stream → Nat → Stream} {attempts : Nat} {s s' : Stream} {index : Nat}

/-- A refused word selects nothing: the search goes on with the next word. -/
theorem run_firstAccepted_succ (hword : TakesWords word ahead skip) (accept : Nat → Option Nat)
    (attempts : Nat) (s : Stream) :
    (firstAccepted accept word (attempts + 1)).run s =
      match accept (ahead s 0) with
      | some index => .ok (index, skip s 1)
      | none => (firstAccepted accept word attempts).run (skip s 1) := by
  rw [firstAccepted, StateT.run_bind, hword.run_eq]
  change (match accept (ahead s 0) with
    | some index => pure index
    | none => firstAccepted accept word attempts : Sampler Nat).run (skip s 1) = _
  cases accept (ahead s 0) <;> rfl

/-- A search returns the index of the first word that selects one, and the stream goes on behind
that word. -/
theorem firstAccepted_eq_ok (hword : TakesWords word ahead skip) :
    (firstAccepted accept word attempts).run s = .ok (index, s') ↔
      ∃ refused < attempts, (∀ earlier < refused, accept (ahead s earlier) = none) ∧
        accept (ahead s refused) = some index ∧ s' = skip s (refused + 1) := by
  induction attempts generalizing s with
  | zero =>
    constructor
    · rintro ⟨⟩
    · rintro ⟨refused, hrefused, -⟩
      exact absurd hrefused (Nat.not_lt_zero refused)
  | succ attempts ih =>
    rw [run_firstAccepted_succ hword]
    cases hfirst : accept (ahead s 0) with
    | some first =>
      constructor
      · rintro ⟨⟩
        exact ⟨0, Nat.succ_pos attempts, nofun, hfirst, rfl⟩
      · rintro ⟨_ | refused, -, hrefuses, hselects, rfl⟩
        · rw [hselects, Option.some.injEq] at hfirst
          rw [hfirst]
        · rw [hrefuses 0 (Nat.succ_pos refused)] at hfirst
          cases hfirst
    | none =>
      dsimp only
      rw [ih]
      simp only [hword.ahead_skip, hword.skip_skip]
      constructor
      · rintro ⟨refused, hrefused, hrefuses, hselects, rfl⟩
        exact ⟨refused + 1, Nat.succ_lt_succ hrefused,
          Nat.forall_lt_succ_left.mpr ⟨hfirst, hrefuses⟩, hselects, rfl⟩
      · rintro ⟨_ | refused, hrefused, hrefuses, hselects, rfl⟩
        · rw [hfirst] at hselects
          cases hselects
        · exact ⟨refused, Nat.lt_of_succ_lt_succ hrefused,
            (Nat.forall_lt_succ_left.mp hrefuses).2, hselects, rfl⟩

/-- A search does not return just if every word that it may look at is refused. -/
theorem firstAccepted_eq_error_iff (hword : TakesWords word ahead skip) {cause : Interruption} :
    (firstAccepted accept word attempts).run s = .error cause ↔
      cause = .exhausted ∧ ∀ words < attempts, accept (ahead s words) = none := by
  induction attempts generalizing s with
  | zero =>
    constructor
    · rintro ⟨⟩
      exact ⟨rfl, nofun⟩
    · rintro ⟨rfl, -⟩
      rfl
  | succ attempts ih =>
    rw [run_firstAccepted_succ hword]
    cases hfirst : accept (ahead s 0) with
    | some first =>
      refine iff_of_false nofun ?_
      rintro ⟨-, hrefused⟩
      rw [hrefused 0 (Nat.succ_pos attempts)] at hfirst
      cases hfirst
    | none =>
      dsimp only
      rw [ih, Nat.forall_lt_succ_left, and_iff_right hfirst]
      simp only [hword.ahead_skip]

theorem seed_eq_of_firstAccepted (hword : TakesWords word ahead skip)
    (h : (firstAccepted accept word attempts).run s = .ok (index, s')) : s'.seed = s.seed := by
  obtain ⟨refused, -, -, -, rfl⟩ := (firstAccepted_eq_ok hword).mp h
  exact hword.seed_skip s _

end Search

/-! ## Draws -/

/-- A draw of an index below a number. -/
inductive Draw where
  /-- from words of 64 bits -/
  | wide (n : Nat)
  /-- from words of 32 bits -/
  | narrow (n : Nat)
  /-- from words of 32 bits of which as few as possible are refused -/
  | sparing (n : Nat)

namespace Draw

/-- The draw as a sampler. -/
def sampler : Draw → Sampler Nat
  | wide n => below n
  | narrow n => below32 n
  | sparing n => belowSmall n

/-- The index that a word selects, if it is not refused. -/
def accept : Draw → Nat → Option Nat
  | wide n => select? 64 (looseZone 64 n) n
  | narrow n => select? 32 (looseZone 32 n) n
  | sparing n => select? 32 (tightZone 32 n) n

/-- The word that the draw looks at behind some others. -/
def wordAhead : Draw → Stream → Nat → Nat
  | wide _, s, words => s.wordAhead words
  | narrow _, s, words => s.halfAhead words
  | sparing _, s, words => s.halfAhead words

/-- From this place on a thousand words follow one another each of which the draw refuses.  It looks
at no more of them. -/
def Refuses (d : Draw) (s : Stream) : Prop :=
  ∀ words < 1000, d.accept (d.wordAhead s words) = none

variable {d : Draw} {s s' : Stream}

/-- A draw does not return just where it refuses every word that it looks at. -/
theorem run_eq_error_iff {cause : Interruption} :
    d.sampler.run s = .error cause ↔ cause = .exhausted ∧ d.Refuses s := by
  cases d with
  | wide n => exact firstAccepted_eq_error_iff takesWords_word64
  | narrow n => exact firstAccepted_eq_error_iff takesWords_word32
  | sparing n => exact firstAccepted_eq_error_iff takesWords_word32

theorem seed_eq {index : Nat} (h : d.sampler.run s = .ok (index, s')) : s'.seed = s.seed := by
  cases d with
  | wide n => exact seed_eq_of_firstAccepted takesWords_word64 h
  | narrow n => exact seed_eq_of_firstAccepted takesWords_word32 h
  | sparing n => exact seed_eq_of_firstAccepted takesWords_word32 h

end Draw

theorem below_eq_error_iff {n : Nat} {s : Stream} {cause : Interruption} :
    (below n).run s = .error cause ↔ cause = .exhausted ∧ (Draw.wide n).Refuses s :=
  Draw.run_eq_error_iff (d := .wide n)

/-! ## Samplers that stall -/

/-- From a place of a stream the sampler comes to a draw, at this other place. -/
inductive ComesTo : {α : Type} → Sampler α → Stream → Draw → Stream → Prop where
  /-- the sampler begins with the draw -/
  | here {α : Type} (d : Draw) (f : Nat → Sampler α) (s : Stream) : ComesTo (d.sampler >>= f) s d s
  /-- what comes before the draw returns -/
  | later {α β : Type} {x : Sampler α} {f : α → Sampler β} {a : α} {s s₁ s₂ : Stream} {d : Draw}
      (hreturned : x.run s = .ok (a, s₁)) (hcomes : ComesTo (f a) s₁ d s₂) :
      ComesTo (x >>= f) s d s₂

/-- The sampler comes to a draw that refuses every word it looks at, at a place of the sequence that
it is in. -/
def Stalls (x : Sampler α) (s : Stream) : Prop :=
  ∃ d position, ComesTo x s d ⟨s.seed, position⟩ ∧ d.Refuses ⟨s.seed, position⟩

/-- A sampler comes to the same draws whatever follows it. -/
theorem ComesTo.bind {x : Sampler α} {s s₁ : Stream} {d : Draw} (h : ComesTo x s d s₁)
    (f : α → Sampler β) : ComesTo (x >>= f) s d s₁ := by
  induction h generalizing β with
  | here d g s =>
    rw [bind_assoc]
    exact .here d _ s
  | later hreturned _ ih =>
    rw [bind_assoc]
    exact .later hreturned (ih f)

theorem ComesTo.run_eq {x : Sampler α} {s s₁ : Stream} {d : Draw} (h : ComesTo x s d s₁)
    (hrefuses : d.Refuses s₁) : x.run s = .error .exhausted := by
  induction h with
  | here d f s => exact bind_eq_error.mpr (.inl (Draw.run_eq_error_iff.mpr ⟨rfl, hrefuses⟩))
  | later hreturned _ ih => exact bind_eq_error.mpr (.inr ⟨_, _, hreturned, ih hrefuses⟩)

theorem Stalls.run_eq {x : Sampler α} {s : Stream} (h : x.Stalls s) :
    x.run s = .error .exhausted := by
  obtain ⟨d, position, hcomes, hrefuses⟩ := h
  exact hcomes.run_eq hrefuses

/-- The sampler moves on in the sequence of its seed, and is exhausted only where it stalls. -/
structure Proceeds (x : Sampler α) : Prop where
  seed_eq : ∀ {s : Stream} {a : α} {s' : Stream}, x.run s = .ok (a, s') → s'.seed = s.seed
  stalls : ∀ {s : Stream}, x.run s = .error .exhausted → x.Stalls s

theorem Proceeds.exhausted_iff {x : Sampler α} (hx : Proceeds x) {s : Stream} :
    x.run s = .error .exhausted ↔ x.Stalls s :=
  ⟨hx.stalls, Stalls.run_eq⟩

theorem Proceeds.pure (a : α) : Proceeds (pure a : Sampler α) where
  seed_eq h := by rw [(pure_eq_ok.mp h).2]
  stalls h := absurd h pure_ne_error

theorem Proceeds.lift {x : Except Interruption α} (h : x ≠ .error .exhausted) :
    Proceeds (StateT.lift x : Sampler α) where
  seed_eq hx := by rw [(lift_eq_ok.mp hx).2]
  stalls hx := absurd (lift_eq_error.mp hx) h

/-- What follows a sampler goes on in the same sequence, and matters only for what the sampler can
return. -/
theorem Proceeds.bind {x : Sampler α} {f : α → Sampler β} (hx : Proceeds x)
    (hf : ∀ {s a s'}, x.run s = .ok (a, s') → Proceeds (f a)) : Proceeds (x >>= f) where
  seed_eq h := by
    obtain ⟨a, s', h₁, h₂⟩ := bind_eq_ok.mp h
    rw [(hf h₁).seed_eq h₂, hx.seed_eq h₁]
  stalls h := by
    rcases bind_eq_error.mp h with h₁ | ⟨a, s', h₁, h₂⟩
    · obtain ⟨d, position, hcomes, hrefuses⟩ := hx.stalls h₁
      exact ⟨d, position, hcomes.bind f, hrefuses⟩
    · obtain ⟨d, position, hcomes, hrefuses⟩ := (hf h₁).stalls h₂
      rw [hx.seed_eq h₁] at hcomes hrefuses
      exact ⟨d, position, .later h₁ hcomes, hrefuses⟩

/-- Nothing but a draw can keep the sampler from returning. -/
structure Steady (x : Sampler α) : Prop extends Proceeds x where
  exhausted : ∀ {s : Stream} {cause : Interruption}, x.run s = .error cause → cause = .exhausted

theorem Steady.eq_error_iff {x : Sampler α} (hx : Steady x) {s : Stream} {cause : Interruption} :
    x.run s = .error cause ↔ cause = .exhausted ∧ x.Stalls s := by
  rw [← hx.exhausted_iff]
  constructor
  · intro h
    obtain rfl := hx.exhausted h
    exact ⟨rfl, h⟩
  · rintro ⟨rfl, h⟩
    exact h

theorem Steady.pure (a : α) : Steady (pure a : Sampler α) where
  toProceeds := .pure a
  exhausted h := absurd h pure_ne_error

theorem Steady.bind {x : Sampler α} {f : α → Sampler β} (hx : Steady x)
    (hf : ∀ a, Steady (f a)) : Steady (x >>= f) where
  toProceeds := hx.toProceeds.bind fun {_ a _} _ => (hf a).toProceeds
  exhausted h := by
    rcases bind_eq_error.mp h with h₁ | ⟨a, s', -, h₂⟩
    · exact hx.exhausted h₁
    · exact (hf a).exhausted h₂

theorem Steady.map {x : Sampler α} (hx : Steady x) (g : α → β) : Steady (g <$> x) := by
  rw [map_eq_pure_bind]
  exact hx.bind fun a => .pure (g a)

/-- From every place of a stream the sampler returns something with the property, unless it comes to
a draw that refuses every word it looks at. -/
def Yields (x : Sampler α) (P : Stream → α → Stream → Prop) : Prop :=
  ∀ s, (∃ a s', x.run s = .ok (a, s') ∧ P s a s') ∨ x.run s = .error .exhausted ∧ x.Stalls s

theorem Steady.yields {x : Sampler α} (hx : Steady x) {P : Stream → α → Stream → Prop}
    (hreturned : ∀ s a s', x.run s = .ok (a, s') → P s a s') : Yields x P := by
  intro s
  cases hrun : x.run s with
  | ok drawn => exact .inl ⟨drawn.1, drawn.2, rfl, hreturned s drawn.1 drawn.2 hrun⟩
  | error cause =>
    obtain ⟨rfl, hstalls⟩ := hx.eq_error_iff.mp hrun
    exact .inr ⟨rfl, hstalls⟩

/-! ## Indices -/

theorem steady_word64 : Steady word64 where
  seed_eq h := by
    rw [takesWords_word64.run_eq] at h
    cases h
    rfl
  stalls h := by
    rw [takesWords_word64.run_eq] at h
    cases h
  exhausted h := by
    rw [takesWords_word64.run_eq] at h
    cases h

theorem Draw.steady (d : Draw) : Steady d.sampler where
  seed_eq := Draw.seed_eq
  stalls {s} h := by
    refine ⟨d, s.position, ?_, (Draw.run_eq_error_iff.mp h).2⟩
    rw [← bind_pure d.sampler]
    exact .here d pure s
  exhausted h := (Draw.run_eq_error_iff.mp h).1

theorem steady_below (n : Nat) : Steady (below n) := (Draw.wide n).steady

theorem steady_below32 (n : Nat) : Steady (below32 n) := (Draw.narrow n).steady

theorem steady_belowSmall (n : Nat) : Steady (belowSmall n) := (Draw.sparing n).steady

/-- The high half of a product with `n` lies below `n`. -/
theorem select?_lt {bits zone n w index : Nat} (hn : 0 < n) (hw : w < 2 ^ bits)
    (h : select? bits zone n w = some index) : index < n := by
  unfold select? at h
  split at h
  · rw [← Option.some.inj h]
    exact Nat.div_lt_of_lt_mul (Nat.mul_lt_mul_of_pos_right hw hn)
  · cases h

theorem below_lt {n : Nat} (hn : 0 < n) {s s' : Stream} {index : Nat}
    (h : (below n).run s = .ok (index, s')) : index < n := by
  obtain ⟨refused, -, -, hselects, -⟩ := (firstAccepted_eq_ok takesWords_word64).mp h
  exact select?_lt hn (s.skip refused).next64.1.toNat_lt hselects

theorem below32_lt {n : Nat} (hn : 0 < n) {s s' : Stream} {index : Nat}
    (h : (below32 n).run s = .ok (index, s')) : index < n := by
  obtain ⟨refused, -, -, hselects, -⟩ := (firstAccepted_eq_ok takesWords_word32).mp h
  exact select?_lt hn (s.skipHalf refused).next32.1.toNat_lt hselects

/-! ## Samples -/

theorem steady_element (items : List α) : Steady (element items) := by
  cases items with
  | nil => exact .pure none
  | cons item items => exact (steady_below _).bind fun _ => .pure _

/-- Of a list with an item, an item is chosen. -/
theorem element_ne_none {items : List α} (hne : items ≠ []) {s s' : Stream} {choice : Option α}
    (h : (element items).run s = .ok (choice, s')) : ∃ item, choice = some item := by
  cases items with
  | nil => exact absurd rfl hne
  | cons item items =>
    obtain ⟨index, hindex, rfl⟩ := bind_pure_eq_ok.mp h
    have hlt : index < (item :: items).length := below_lt (by simp) hindex
    exact ⟨_, List.getElem?_eq_getElem hlt⟩

theorem steady_pick (items : List String) : Steady (pick items) :=
  (steady_element items).bind fun _ => .pure _

theorem steady_word : Steady word := steady_pick words

theorem steady_coin : Steady coin := steady_word64.bind fun _ => .pure _

theorem steady_between (a b : Int64) : Steady (between a b) := by
  unfold between
  dsimp only
  split
  · exact steady_word64.bind fun _ => .pure _
  · exact (steady_below _).bind fun _ => .pure _

theorem steady_numberOfDigits (digits : Option Nat) (exactly : Bool) :
    Steady (numberOfDigits digits exactly) := by
  unfold numberOfDigits
  cases digits with
  | none =>
    exact (steady_below32 9).bind fun _ => (Steady.pure _).bind fun _ => steady_between _ _
  | some digits => exact (Steady.pure _).bind fun _ => steady_between _ _

/-- Every chunk makes the rest of a digit string shorter, and the rest is steady. -/
theorem steady_digitString (length : Nat) : Steady (digitString length) := by
  induction length using Nat.strongRecOn with
  | ind length ih =>
    rw [digitString]
    split
    · exact .pure []
    · refine (steady_below _).bind fun index => (ih _ ?_).bind fun _ => .pure _
      have := length_chunk_pos index
      omega

theorem steady_date : Steady date := (steady_below _).bind fun _ => .pure _

theorem steady_dateText? (pattern : String) : Steady (dateText? pattern) :=
  steady_date.bind fun _ => .pure _

theorem steady_userName : Steady userName := by
  refine steady_word.bind fun first => (steady_belowSmall 3).bind fun ending => ?_
  split
  · exact .pure first
  · exact steady_word.bind fun _ => .pure _
  · exact (steady_below32 99).bind fun _ => .pure _

theorem steady_email : Steady email :=
  steady_userName.bind fun _ => (steady_pick safeDomains).bind fun _ => .pure _

theorem steady_url : Steady url :=
  steady_coin.bind fun _ => steady_word.bind fun _ => (steady_pick hostSuffixes).bind fun _ =>
    steady_word.bind fun _ => steady_word.bind fun _ => .pure _

theorem steady_address : Steady address := (steady_below _).bind fun _ => .pure _

theorem steady_timezone : Steady timezone := (steady_element zones).bind fun _ => .pure _

end Sampler

end FieldGuide
