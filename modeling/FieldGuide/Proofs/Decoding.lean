import Mathlib.Data.List.Basic
import FieldGuide.Console.Session
import FieldGuide.Proofs.JsonRoundTrip
set_option autoImplicit false

/-!
# Parameters decoded from their text

Whoever reads the JSON text of documented parameters gets the names in their order, and for each the
entry that was stored.  Values of all four kinds are told apart, so texts are the same only if
parameters are.
-/

namespace FieldGuide

/-! ## Decoders -/

/-- The truth value that a JSON value is. -/
def Json.bool? : Json → Option Bool
  | .bool value => some value
  | _ => none

/-- The text that a JSON value is. -/
def Json.string? : Json → Option String
  | .string value => some value
  | _ => none

/-- The texts that the items of a JSON value are. -/
def Json.strings? : Json → Option (List String)
  | .array items => items.mapM Json.string?
  | _ => none

/-- The type that is written, or that none is set. -/
def FieldType.ofJson? : Json → Option (Option FieldType)
  | .null => some none
  | .string name => (ofName? name).map some
  | _ => none

/-- The example value that is written; a number has to have 64 bits. -/
def Example.ofJson? : Json → Option Example
  | .null => some .empty
  | .bool value => some (.flag value)
  | .number n =>
    if -2 ^ 63 ≤ n ∧ n < 2 ^ 63 then some (.number (Int64.ofInt n)) else none
  | .string value => some (.text value)
  | _ => none

/-- The entry that is written. -/
def Entry.ofJson? : Json → Option Entry
  | .object members => do
    return {
      required := ← (← members.lookup "required").bool?
      type := ← FieldType.ofJson? (← members.lookup "type")
      value := ← Example.ofJson? (← members.lookup "value")
      description := ← (← members.lookup "description").strings? }
  | _ => none

/-! ## Decoding what has been written -/

theorem FieldType.ofName?_name (t : FieldType) : ofName? t.name = some t := by
  cases t <;> rfl

theorem FieldType.ofJson?_toJson (type : Option FieldType) :
    ofJson? ((type.map toJson).getD .null) = some type := by
  cases type with
  | none => rfl
  | some t => exact congrArg (Option.map some) t.ofName?_name

theorem Example.ofJson?_toJson (value : Example) : ofJson? value.toJson = some value := by
  cases value with
  | number n =>
    have hlow := n.le_toInt
    have hhigh := n.toInt_lt
    rw [toJson, ofJson?, if_pos ⟨hlow, hhigh⟩, Int64.ofInt_toInt]
  | _ => rfl

theorem Json.strings?_array (texts : List String) :
    (Json.array (texts.map .string)).strings? = some texts := by
  rw [strings?]
  induction texts with
  | nil => rfl
  | cons text texts ih =>
    rw [List.map_cons, List.mapM_cons, ih]
    rfl

/-- An entry decodes from its text as it was stored. -/
theorem Entry.ofJson?_toJson (e : Entry) : ofJson? e.toJson = some e := by
  simp [toJson, ofJson?, List.lookup_cons, Json.bool?, FieldType.ofJson?_toJson,
    Example.ofJson?_toJson, Json.strings?_array]

/-! ## Parameters -/

/-- The text is read as an object whose keys are the names in order, and each of its values decodes
to the entry of its name. -/
def Parameters.ReadsBack (p : Parameters) (text : String) : Prop :=
  ∃ members, Json.read? text = some (.object members) ∧ members.map (·.1) = p.names ∧
    members.map (fun member => Entry.ofJson? member.2) = p.toList.map fun pair => some pair.2

namespace Parameters

theorem readsBack_of_read? {p : Parameters} {text : String}
    (h : Json.read? text = some p.toJson) : p.ReadsBack text := by
  refine ⟨_, h, ?_, ?_⟩
  · rw [List.map_map]
    rfl
  · rw [List.map_map]
    exact List.map_congr_left fun pair _ => pair.2.ofJson?_toJson

/-- Only one collection of parameters reads back from a text. -/
theorem ReadsBack.unique {p q : Parameters} {text : String} (hp : p.ReadsBack text)
    (hq : q.ReadsBack text) : p = q := by
  obtain ⟨members, hread, hnames, hentries⟩ := hp
  obtain ⟨members', hread', hnames', hentries'⟩ := hq
  rw [hread] at hread'
  cases hread'
  have hfirst : p.toList.map (·.1) = q.toList.map (·.1) := hnames.symm.trans hnames'
  have hsome : (p.toList.map (·.2)).map some = (q.toList.map (·.2)).map some := by
    rw [List.map_map, List.map_map]
    exact hentries.symm.trans hentries'
  have hsecond : p.toList.map (·.2) = q.toList.map (·.2) :=
    List.map_injective_iff.mpr (fun _ _ => Option.some.inj) hsome
  have hpairs : p.toList = q.toList :=
    (List.zip_of_prod hfirst hsecond).trans (List.zip_of_prod rfl rfl).symm
  cases p
  cases q
  cases hpairs
  rfl

/-- Parameters read back from their text in both layouts and from what the command line shows of
them, and two texts are the same only if the parameters are. -/
theorem readsBack_write :
    (∀ (p : Parameters) (layout : Json.Layout), p.ReadsBack (p.toJson.write layout)) ∧
      (∀ (r : Console.Request) (terminal : Bool) (fields : List (Aggregate × String)),
        (Console.parametersOf (fields.map (·.1))).ReadsBack
          ({ r with json := true }.output terminal fields)) ∧
      ∀ (p q : Parameters) (layout : Json.Layout),
        p.toJson.write layout = q.toJson.write layout ↔ p = q := by
  have hreads (p : Parameters) (layout : Json.Layout) : p.ReadsBack (p.toJson.write layout) :=
    readsBack_of_read? (Json.read?_write layout p.toJson)
  refine ⟨hreads, ?_, ?_⟩
  · intro r terminal fields
    exact readsBack_of_read? (Json.read?_write_newline .pretty _)
  · intro p q layout
    constructor
    · intro heq
      have hq := hreads q layout
      rw [← heq] at hq
      exact (hreads p layout).unique hq
    · rintro rfl
      rfl

end Parameters

end FieldGuide
