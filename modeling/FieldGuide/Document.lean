import FieldGuide.Aggregation
import FieldGuide.Parameters
set_option autoImplicit false

/-!
# Documents

The fields of an endpoint are documented with one seed, each on a stream of its own, so that no field
depends on another one.
-/

namespace FieldGuide

/-- Documents one field under its name. -/
def documentField (templates : Templates) (setting : Setting) (seed : String)
    (field : String × RuleText) : Except Interruption (String × Entry) := do
  return (field.1, ← aggregateEntry templates setting field.1 field.2.rules seed)

/-- Documents fields that share a seed.  Every field has a stream of its own. -/
def document (templates : Templates) (setting : Setting) (seed : String)
    (fields : List (String × RuleText)) : Except Interruption Parameters := do
  return Parameters.ofList (← fields.mapM (documentField templates setting seed))

/-- Documents fields that share a seed, each in a task of its own. -/
def documentInParallel (templates : Templates) (setting : Setting) (seed : String)
    (fields : List (String × RuleText)) : Except Interruption Parameters := do
  let tasks := fields.map fun field =>
    Task.spawn fun _ => documentField templates setting seed field
  return Parameters.ofList (← tasks.mapM Task.get)

end FieldGuide
