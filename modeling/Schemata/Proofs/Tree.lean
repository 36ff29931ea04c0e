import Schemata.Schema

/-! # Schemas as trees

The schemas directly below a node, and properties of every node of a tree.
What a custom node delegates to is not below it: nothing is known of a custom node.
-/
namespace Schemata.Schema
variable {p q : Schema → Prop}

/-- The schemas directly below a node. -/
def children : Schema → List Schema
  | .array element _ => [element]
  | .object shape _ _ => shape.map Prod.snd
  | .union options _ => options
  | .optional inner | .nullable inner | .withDefault inner _ | .refine inner _
  | .transform inner _ | .boxed inner => [inner]
  | _ => []

theorem sizeOf_child {s t : Schema} (h : t ∈ s.children) : sizeOf t < sizeOf s := by
  cases s with
  | object shape unknownKeys message =>
    obtain ⟨f, hf, rfl⟩ := List.mem_map.mp h
    have hs := List.sizeOf_lt_of_mem hf
    have ht : sizeOf f.2 < sizeOf f := by
      obtain ⟨name, inner⟩ := f
      simp only [Prod.mk.sizeOf_spec]
      omega
    simp only [object.sizeOf_spec]
    omega
  | union options message =>
    have hs := List.sizeOf_lt_of_mem (show t ∈ options from h)
    simp only [union.sizeOf_spec]
    omega
  | array inner _ | optional inner | nullable inner | withDefault inner _ | refine inner _
  | transform inner _ | boxed inner =>
    obtain rfl : t = inner := by simpa [children] using h
    simp only [array.sizeOf_spec, optional.sizeOf_spec, nullable.sizeOf_spec,
      withDefault.sizeOf_spec, refine.sizeOf_spec, transform.sizeOf_spec, boxed.sizeOf_spec]
    omega
  | _ => simp [children] at h

/-- A property of every node of a tree. -/
inductive Every (p : Schema → Prop) : Schema → Prop
  | node {s : Schema} (here : p s) (below : ∀ t ∈ s.children, Every p t) : Every p s

theorem Every.self {s : Schema} (h : s.Every p) : p s := by
  cases h with
  | node here _ => exact here

theorem Every.child {s t : Schema} (h : s.Every p) (ht : t ∈ s.children) : t.Every p := by
  cases h with
  | node _ below => exact below t ht

theorem Every.mono {s : Schema} (h : s.Every p) (hpq : ∀ t, p t → q t) : s.Every q := by
  induction h with
  | node here _ ih => exact .node (hpq _ here) ih

theorem Every.leaf {s : Schema} (hs : p s) (hc : s.children = []) : s.Every p :=
  .node hs (hc ▸ List.forall_mem_nil _)

theorem Every.wrap {s t : Schema} (hs : p s) (hc : s.children = [t]) (ht : t.Every p) : s.Every p :=
  .node hs (hc ▸ List.forall_mem_singleton.mpr ht)

def isCustom : Schema → Bool
  | .custom _ _ => true
  | _ => false

/-- A tree of the library's own nodes. -/
def Native (s : Schema) : Prop := s.Every fun t => t.isCustom = false

/-- What is left to be thrown when the callback of a node has faulted on a value. -/
def burst? : Schema → Value → Option Payload
  | .refine _ check, v => (check.run v).burst?
  | .transform _ mapper, v => (mapper.run v).burst?
  | _, _ => none

/-- A tree whose callbacks throw no loud payload. -/
def Quiet (s : Schema) : Prop := s.Every fun t => ∀ v, t.burst? v = none

/-- A property that custom nodes never have keeps them out of a tree. -/
theorem Every.native {s : Schema} (h : s.Every p) (hp : ∀ name run, ¬ p (.custom name run)) :
    s.Native :=
  h.mono fun t ht => by
    cases t with
    | custom name run => exact absurd ht (hp name run)
    | _ => rfl

end Schemata.Schema
