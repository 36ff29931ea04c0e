import Schemata.Schema

/-! # Object schemas and their structure

An object schema under construction: the declared fields in order, the policy for other keys, and a
message for inputs that are no objects. Deriving one shape from another keeps the policy and the
message.
-/
namespace Schemata

structure ObjectSchema where
  shape : Entries Schema
  unknownKeys : UnknownKeys
  message : Option String

namespace ObjectSchema

def empty : ObjectSchema := ⟨[], .strip, none⟩

def toSchema (o : ObjectSchema) : Schema := .object o.shape o.unknownKeys o.message

def withShape (o : ObjectSchema) (shape : Entries Schema) : ObjectSchema :=
  { o with shape := shape }

/-- Declare a field. A name declared again keeps its place. -/
def field (o : ObjectSchema) (name : String) (schema : Schema) : ObjectSchema :=
  o.withShape (o.shape.insert name schema)

def policy (o : ObjectSchema) (unknownKeys : UnknownKeys) : ObjectSchema :=
  { o with unknownKeys := unknownKeys }

def error (o : ObjectSchema) (message : String) : ObjectSchema := { o with message := some message }

/-- Make every field optional. -/
def partialShape (o : ObjectSchema) : ObjectSchema := o.withShape (o.shape.mapValues .optional)

def pick (o : ObjectSchema) (names : List String) : ObjectSchema :=
  o.withShape (o.shape.filter fun e => names.contains e.1)

def without (o : ObjectSchema) (names : List String) : ObjectSchema :=
  o.withShape (names.foldl Entries.erase o.shape)

/-- Declare the fields of another shape after and over one's own. -/
def extend (o other : ObjectSchema) : ObjectSchema := o.withShape (o.shape.insertAll other.shape)

/-- The object schemas that can be built. -/
inductive Built : ObjectSchema → Prop
  | empty : Built empty
  | field {o : ObjectSchema} (h : Built o) (name : String) (schema : Schema) :
    Built (o.field name schema)
  | policy {o : ObjectSchema} (h : Built o) (unknownKeys : UnknownKeys) :
    Built (o.policy unknownKeys)
  | error {o : ObjectSchema} (h : Built o) (message : String) : Built (o.error message)
  | partialShape {o : ObjectSchema} (h : Built o) : Built o.partialShape
  | pick {o : ObjectSchema} (h : Built o) (names : List String) : Built (o.pick names)
  | without {o : ObjectSchema} (h : Built o) (names : List String) : Built (o.without names)
  | extend {o other : ObjectSchema} (h : Built o) (h' : Built other) : Built (o.extend other)

/-- Erasing is choosing the other fields. -/
theorem shape_without (o : ObjectSchema) (names : List String) :
    (o.without names).shape = List.filter (fun e => !names.contains e.1) o.shape :=
  Entries.foldl_erase names o.shape

theorem distinct_without {o : ObjectSchema} (h : o.shape.Distinct) (names : List String) :
    (o.without names).shape.Distinct := by
  rw [shape_without]
  exact h.filter _

/-- What is built names no field twice. -/
theorem Built.distinct {o : ObjectSchema} (h : o.Built) : o.shape.Distinct := by
  induction h with
  | empty => exact List.nodup_nil
  | field _ name schema ih => exact ih.insert name schema
  | policy _ _ ih | error _ _ ih => exact ih
  | partialShape _ ih => exact ih.mapValues Schema.optional
  | pick _ names ih => exact ih.filter _
  | without _ names ih => exact distinct_without ih names
  | extend _ _ ih _ => exact ih.insertAll _

end ObjectSchema
end Schemata
