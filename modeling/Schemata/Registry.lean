import Schemata.Schema.Parse

/-! # Registries of named schemas

A registry binds each name once. Handles of one registry share what is stored, so a registration
through one is seen through all.
-/
namespace Schemata

inductive RegistryError
  | duplicateName (name : String)
  | notFound (name : String)
  | validation (issues : Issues)

def RegistryError.message : RegistryError → String
  | .duplicateName name => "schema '" ++ name ++ "' already registered"
  | .notFound name => "schema '" ++ name ++ "' not found"
  | .validation is => is.display

structure Registry where
  schemas : Entries Schema

namespace Registry

def empty : Registry := ⟨[]⟩

def get? (r : Registry) (name : String) : Option Schema := r.schemas.get? name

def contains (r : Registry) (name : String) : Bool := r.schemas.contains name

/-- The registered names in the order of their characters. -/
def names (r : Registry) : List String := r.schemas.names.mergeSort fun a b => decide (a ≤ b)

/-- Bind a name that is not bound yet. -/
def register (r : Registry) (name : String) (schema : Schema) : Except RegistryError Registry :=
  if r.contains name then .error (.duplicateName name) else .ok ⟨r.schemas.insert name schema⟩

def find (r : Registry) (name : String) : Except RegistryError Schema :=
  match r.get? name with
  | some schema => .ok schema
  | none => .error (.notFound name)

def parse (r : Registry) (name : String) (value : Value) : Run (Except RegistryError Value) :=
  match r.find name with
  | .error e => pure (.error e)
  | .ok schema => do
    match ← schema.parse value with
    | .ok value => pure (.ok value)
    | .error is => pure (.error (.validation is))

def safeParse (r : Registry) (name : String) (value : Value) :
    Run (Except RegistryError ParseResult) :=
  match r.find name with
  | .error e => pure (.error e)
  | .ok schema => do return .ok (← schema.safeParse value)

/-- One result for each value, in the order of the values. -/
def safeParseBatch (r : Registry) (name : String) (values : List Value) :
    Run (Except RegistryError (List ParseResult)) :=
  match r.find name with
  | .error e => pure (.error e)
  | .ok schema => do return .ok (← values.mapM schema.safeParse)

/-- How many of the competing registrations of one name succeed, and what they leave behind. -/
def race (r : Registry) (name : String) (schemas : List Schema) : Nat × Registry :=
  schemas.foldl (fun (winners, r) schema =>
    match r.register name schema with
    | .ok r => (winners + 1, r)
    | .error _ => (winners, r)) (0, r)

end Registry

/-- Registries behind handles. Each handle names a place in the list of registries. -/
structure Registries where
  handles : Entries Nat
  stores : List Registry

namespace Registries

def none : Registries := ⟨[], []⟩

def store? (rs : Registries) (handle : String) : Option Registry := do
  rs.stores[← rs.handles.get? handle]?

/-- Let a handle name a registry of its own. -/
def create (rs : Registries) (handle : String) : Registries :=
  ⟨rs.handles.insert handle rs.stores.length, rs.stores ++ [.empty]⟩

/-- Let another handle name the same registry. -/
def share? (rs : Registries) (handle other : String) : Option Registries := do
  let place ← rs.handles.get? handle
  return { rs with handles := rs.handles.insert other place }

/-- Replace the registry that a handle names, for all its handles. -/
def update? (rs : Registries) (handle : String) (r : Registry) : Option Registries := do
  let place ← rs.handles.get? handle
  return { rs with stores := rs.stores.set place r }

end Registries
end Schemata
