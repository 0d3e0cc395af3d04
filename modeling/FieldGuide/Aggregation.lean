import FieldGuide.Trace
set_option autoImplicit false

/-!
# Aggregation

The rules of a field are applied in order to an empty entry, and every rule goes on with the stream
where the rule before it left it.  One pass keeps the entry alone, another one keeps the trace as
well.  In the end a field without a type becomes a string, and a field without an example value gets
a word.
-/

namespace FieldGuide

/-- The entry after some rules in order. -/
def applyRules (templates : Templates) (setting : Setting) (field : String) :
    List String → Entry → Sampler Entry
  | [], e => pure e
  | raw :: raws, e => do
    match ← applyRule templates setting field raw e with
    | none => applyRules templates setting field raws e
    | some a => applyRules templates setting field raws a.entry

/-- Completes an entry: it gets a type and an example value if it has none. -/
def finalize (e : Entry) : Sampler Entry := do
  let value ← if e.value.isEmpty then do pure (.text (← Sampler.word)) else pure e.value
  return { e with type := some (e.type.getD .string), value := value }

/-- The value of a sampler on the stream of a seed text. -/
def Sampler.onSeed {α : Type} (seed : String) (s : Sampler α) : Except Interruption α :=
  (s.run (Stream.ofText seed)).map (·.1)

/-- The documentation of a field, with the trace of its rules. -/
structure Aggregate where
  field : String
  seed : String
  /-- the number of the seed -/
  numericSeed : Nat
  entry : Entry
  /-- one outcome for every rule, in order -/
  outcomes : List Outcome
  events : List Event
  deriving DecidableEq, Repr, Inhabited

/-- Documents a field and keeps the trace. -/
def aggregate (templates : Templates) (setting : Setting) (field : String) (rules : List String)
    (seed : String) : Except Interruption Aggregate :=
  Sampler.onSeed seed do
    let (e, outcomes, events) ← traceRules templates setting field rules {}
    let entry ← finalize e
    return ⟨field, seed, (Checksum.ofText seed).toNat, entry, outcomes, events⟩

/-- Documents a field. -/
def aggregateEntry (templates : Templates) (setting : Setting) (field : String)
    (rules : List String) (seed : String) : Except Interruption Entry :=
  Sampler.onSeed seed do finalize (← applyRules templates setting field rules {})

end FieldGuide
