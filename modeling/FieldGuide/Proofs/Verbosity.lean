import FieldGuide.Proofs.FieldArguments
set_option autoImplicit false

/-!
# Verbosity

How much the log is to tell has no influence on the rest of a request: arguments are read alike
whatever the verbosity is by then, and refused alike, so that more verbosity in front of them changes
nothing else.
-/

namespace FieldGuide.Console

/-! ## Reading arguments -/

/-- The request with some more verbosity. -/
def Request.louder (n : Nat) (r : Request) : Request := { r with verbosity := r.verbosity + n }

/-- The progress with some more verbosity. -/
def Progress.louder (n : Nat) (p : Progress) : Progress := (p.1.louder n, p.2)

/-- Steps in a row go alike on two sides if each of them does. -/
theorem bind_alike {α β : Type} {x x' : Step α} {f f' : α → Step β} {g : α → α} {g' : β → β}
    (hx : x' = g <$> x) (hf : ∀ a, f' (g a) = g' <$> f a) : x' >>= f' = g' <$> (x >>= f) := by
  rw [hx, bind_map_left, map_bind]
  exact bind_congr hf

variable (n : Nat) (argument : String) (p : Progress)

theorem setValue_louder (r : Request) (option : ValueOption) (value : String) :
    setValue (r.louder n) option value = Request.louder n <$> setValue r option value := by
  cases option with
  | seed =>
    rw [setValue, setValue, show (r.louder n).seed = r.seed from rfl]
    split <;> rfl
  | reference =>
    rw [setValue, setValue, show (r.louder n).reference = r.reference from rfl]
    split
    · rfl
    · rw [map_bind]
      rfl
  | dialect =>
    rw [setValue, setValue, show (r.louder n).dialect = r.dialect from rfl]
    split
    · rfl
    · rw [map_bind]
      rfl

theorem setFlag_louder (r : Request) (flag : Flag) :
    setFlag (r.louder n) flag = Request.louder n <$> setFlag r flag := by
  cases flag with
  | json =>
    rw [setFlag, setFlag, show (r.louder n).json = r.json from rfl]
    split <;> rfl
  | color =>
    rw [setFlag, setFlag, show (r.louder n).color = r.color from rfl]
    split <;> rfl
  | noColor =>
    rw [setFlag, setFlag, show (r.louder n).noColor = r.noColor from rfl]
    split <;> rfl
  | verbose =>
    have hsum : r.verbosity + n + 1 = r.verbosity + 1 + n := Nat.add_right_comm _ _ _
    exact congrArg (fun verbosity => Except.ok { r with verbosity := verbosity }) hsum
  | help => rfl
  | version => rfl

theorem settle_louder (r : Request) (pending : Pending) :
    settle (r.louder n) pending = Request.louder n <$> settle r pending := by
  cases pending with
  | nothing => rfl
  | fields values =>
    rw [settle, settle, map_bind]
    rfl
  | option option value =>
    cases value with
    | none => rfl
    | some value => exact setValue_louder n r option value

/-- What has been put off is settled, and then an option is carried out. -/
theorem settle_bind_louder {β : Type} {f f' : Request → Step β} {g : β → β}
    (hf : ∀ r, f' (r.louder n) = g <$> f r) :
    settle (p.louder n).1 (p.louder n).2 >>= f' = g <$> (settle p.1 p.2 >>= f) :=
  bind_alike (settle_louder n p.1 p.2) hf

theorem readLong_louder (text : List Char) :
    readLong argument text (p.louder n) = Progress.louder n <$> readLong argument text p := by
  unfold readLong
  dsimp only
  split
  · rfl
  · exact settle_bind_louder n p fun _ => rfl
  · exact settle_bind_louder n p fun r => bind_alike (setValue_louder n r _ _) fun _ => rfl
  · exact settle_bind_louder n p fun r => bind_alike (setFlag_louder n r _) fun _ => rfl
  · rfl

theorem readLetters_louder (letters : List Char) :
    readLetters argument letters (p.louder n) =
      Progress.louder n <$> readLetters argument letters p := by
  induction letters generalizing p with
  | nil => rfl
  | cons c cs ih =>
    unfold readLetters
    split
    · rfl
    · refine settle_bind_louder n p fun r => bind_alike (setFlag_louder n r _) fun r' => ?_
      exact ih (r', .nothing)
    · split
      · exact settle_bind_louder n p fun _ => rfl
      · exact settle_bind_louder n p fun r => bind_alike (setValue_louder n r _ _) fun _ => rfl
      · exact settle_bind_louder n p fun r => bind_alike (setValue_louder n r _ _) fun _ => rfl

theorem readFieldArgument_louder :
    readFieldArgument argument (p.louder n) =
      Progress.louder n <$> readFieldArgument argument p := by
  obtain ⟨r, pending⟩ := p
  cases pending with
  | fields values => rfl
  | nothing => rfl
  | option option value =>
    exact settle_bind_louder n (r, .option option value) fun _ => rfl

theorem readPlain_louder :
    readPlain argument (p.louder n) = Progress.louder n <$> readPlain argument p := by
  obtain ⟨r, pending⟩ := p
  cases pending with
  | nothing => exact readFieldArgument_louder n argument (r, .nothing)
  | fields values => exact readFieldArgument_louder n argument (r, .fields values)
  | option option value =>
    cases value with
    | none => rfl
    | some value => exact readFieldArgument_louder n argument (r, .option option (some value))

theorem readFrom_louder (arguments : List String) (fieldsOnly : Bool) :
    readFrom arguments fieldsOnly (p.louder n) =
      Progress.louder n <$> readFrom arguments fieldsOnly p := by
  induction arguments generalizing fieldsOnly p with
  | nil => cases fieldsOnly <;> rfl
  | cons argument rest ih =>
    cases fieldsOnly with
    | true => exact bind_alike (readFieldArgument_louder n argument p) fun p' => ih p' true
    | false =>
      unfold readFrom
      split
      · exact ih p true
      · exact bind_alike (readLong_louder n argument p _) fun p' => ih p' false
      · exact bind_alike (readLetters_louder n argument p _) fun p' => ih p' false
      · exact bind_alike (readPlain_louder n argument p) fun p' => ih p' false

/-- The letter of the log as an argument. -/
def verboseOption : String := "-v"

theorem readFrom_replicate_append (arguments : List String) (r : Request) :
    readFrom (List.replicate n verboseOption ++ arguments) false (r, .nothing) =
      readFrom arguments false (r.louder n, .nothing) := by
  induction n generalizing r with
  | zero => rfl
  | succ n ih =>
    have hsum : (r.louder 1).louder n = r.louder (n + 1) := by
      simp [Request.louder, Nat.add_assoc, Nat.add_comm 1 n]
    rw [← hsum, ← ih]
    rfl

/-- More verbosity in front of the arguments changes nothing else in what they ask for. -/
theorem ofArguments_replicate_append (arguments : List String) :
    Request.ofArguments (List.replicate n verboseOption ++ arguments) =
      Request.louder n <$> Request.ofArguments arguments := by
  have hread : readFrom (List.replicate n verboseOption ++ arguments) false ({}, .nothing) =
      Progress.louder n <$> readFrom arguments false ({}, .nothing) := by
    rw [readFrom_replicate_append]
    exact readFrom_louder n ({}, .nothing) arguments false
  refine bind_alike hread fun p => settle_bind_louder n p fun r => ?_
  rw [show (r.louder n).fields = r.fields from rfl]
  split <;> rfl

end FieldGuide.Console
