import Sentinel.Wire.Json
import Sentinel.Wire.Uuid

/-!
# Validation of objects against a JSON Schema

The vocabulary of the schemas used here: `type`, `required`, `properties`,
`const`, `minLength` and two formats. Additional properties are allowed.
-/

namespace Sentinel.Wire

/-- The schema of a property's value. -/
inductive ValueSchema where
  | text (minLength : Nat)
  | uuid
  | dateTime
  | constant (number : ℚ)
  | object

def ValueSchema.accepts : ValueSchema → Json → Bool
  | .text minLength, .str value => minLength ≤ value.length
  | .text minLength, .time instant => minLength ≤ (rfc3339 instant).length
  | .uuid, .str value => (Uuid.ofHyphenated value.toList).isSome
  | .dateTime, .time _ => true
  | .constant number, .num value => value = number
  | .object, .obj _ => true
  | _, _ => false

structure ObjectSchema where
  required : List String
  properties : List (String × ValueSchema)

namespace ObjectSchema

variable (schema : ObjectSchema)

/-- The required properties that are not there. -/
def missing (entries : List (String × Json)) : List String :=
  schema.required.filter fun name => (entries.lookup name).isNone

/-- The properties whose values are not accepted. -/
def rejected (entries : List (String × Json)) : List String :=
  (schema.properties.filter fun property =>
    (entries.lookup property.1).any (!property.2.accepts ·)).map Prod.fst

def Satisfies (document : Json) : Prop :=
  ∃ entries, document = .obj entries ∧ schema.missing entries = [] ∧ schema.rejected entries = []

variable {schema} {entries : List (String × Json)}

/-- An object satisfies its schema when no field is missing and none is rejected. -/
theorem satisfies_obj_iff :
    schema.Satisfies (.obj entries) ↔
      schema.missing entries = [] ∧ schema.rejected entries = [] := by
  constructor
  · rintro ⟨others, same, holds⟩
    cases same
    exact holds
  · intro holds
    exact ⟨entries, rfl, holds⟩

end ObjectSchema

end Sentinel.Wire
