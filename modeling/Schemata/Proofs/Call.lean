import Mathlib.Logic.Relation
import Schemata.Proofs.Sequence
import Schemata.Proofs.Tree

/-! # Calls of validation

A call is a schema on an input at a path. Validating it makes further calls, its parts, one after
another. What a call comes to is a function of the verdicts on its parts, except that a union ends
at the first part that accepts and that any call ends at the first part that faults. The calls that
are reached are those that an evaluation really comes to.
-/
namespace Schemata

structure Call where
  schema : Schema
  input : Option Value
  path : Path

namespace Call

def run (c : Call) : Run Verdict := c.schema.validate c.input c.path

/-- The calls that a call makes when nothing stops it, in their order. -/
def parts : Call → List Call
  | ⟨.array element _, some (.array items), path⟩ =>
    items.zipIdx.map fun item => ⟨element, some item.1, path.index item.2⟩
  | ⟨.object shape _ _, some (.object entries), path⟩ =>
    shape.map fun f => ⟨f.2, entries.lookup f.1, path.key f.1⟩
  | ⟨.union options _, input, path⟩ => options.map fun option => ⟨option, input, path⟩
  | ⟨.nullable _, some .null, _⟩ => []
  | ⟨.nullable inner, input, path⟩ => [⟨inner, input, path⟩]
  | ⟨.optional inner, some v, path⟩ | ⟨.withDefault inner _, some v, path⟩ =>
    [⟨inner, some v, path⟩]
  | ⟨.refine inner _, input, path⟩ | ⟨.transform inner _, input, path⟩
  | ⟨.boxed inner, input, path⟩ =>
    [⟨inner, input, path⟩]
  | _ => []

def isUnion (c : Call) : Bool :=
  match c.schema with
  | .union _ _ => true
  | _ => false

/-- What a call makes of the verdicts on its parts, unless it is a union. Without a part it decides
alone. -/
def close : Call → List Verdict → Run Verdict
  | ⟨.array _ rules, some (.array items), path⟩, vs => pure (ArrayRules.verdict rules items path vs)
  | ⟨.object shape unknownKeys _, some (.object entries), path⟩, vs =>
    pure (Schema.objectVerdict unknownKeys (Schema.undeclared (shape.map Prod.fst) entries) path
      ((shape.map Prod.fst).zip vs))
  | ⟨.refine _ check, _, path⟩, [v] => check.after path (fun v _ => v) v
  | ⟨.transform _ mapper, _, path⟩, [v] => mapper.after path (fun _ v => v) v
  | _, [v] => pure v
  | c, _ => c.run

theorem mem_children_of_mem_parts {c d : Call} (h : d ∈ c.parts) :
    d.schema ∈ c.schema.children := by
  have hone : ∀ {inner : Schema} {x : Option Value} {p : Path},
      d ∈ [Call.mk inner x p] → d.schema ∈ [inner] := by
    intro inner x p hd
    rw [List.mem_singleton.mp hd]
    exact List.mem_singleton_self inner
  obtain ⟨s, x, p⟩ := c
  cases s with
  | array element rules =>
    match x with
    | some (.array items) =>
      obtain ⟨item, _, rfl⟩ := List.mem_map.mp h
      exact List.mem_singleton_self element
    | none | some .null | some (.bool _) | some (.number _) | some (.string _)
    | some (.object _) => exact absurd h List.not_mem_nil
  | object shape unknownKeys message =>
    match x with
    | some (.object entries) =>
      obtain ⟨f, hf, rfl⟩ := List.mem_map.mp h
      exact List.mem_map_of_mem hf
    | none | some .null | some (.bool _) | some (.number _) | some (.string _)
    | some (.array _) => exact absurd h List.not_mem_nil
  | union options message =>
    obtain ⟨option, ho, rfl⟩ := List.mem_map.mp h
    exact ho
  | optional inner | withDefault inner value =>
    match x with
    | none => exact absurd h List.not_mem_nil
    | some v => exact hone h
  | nullable inner =>
    match x with
    | some .null => exact absurd h List.not_mem_nil
    | none | some (.bool _) | some (.number _) | some (.string _) | some (.array _)
    | some (.object _) => exact hone h
  | refine inner check | transform inner mapper | boxed inner => exact hone h
  | _ => exact absurd h List.not_mem_nil

/-- Induction from the parts of a call to the call. -/
@[elab_as_elim]
theorem partInduction {motive : Call → Prop}
    (call : ∀ c, (∀ d ∈ c.parts, motive d) → motive c) (c : Call) : motive c :=
  call c fun d _ => partInduction call d
termination_by sizeOf c.schema
decreasing_by exact Schema.sizeOf_child (mem_children_of_mem_parts ‹_›)

theorem validateFields_eq (shape : List (String × Schema)) (entries : List (String × Value))
    (path : Path) :
    Schema.validateFields shape entries path =
      (shape.map fun f => Call.mk f.2 (entries.lookup f.1) (path.key f.1)).mapM run >>= fun vs =>
        pure ((shape.map Prod.fst).zip vs) := by
  induction shape with
  | nil => rfl
  | cons f shape ih =>
    simp only [Schema.validateFields, ih, List.map_cons, List.mapM_cons, bind_assoc, pure_bind,
      List.zip_cons_cons]
    rfl

/-- A call that is no union is the run of all its parts and then its close. -/
theorem run_eq {c : Call} (h : c.isUnion = false) : c.run = c.parts.mapM run >>= c.close := by
  obtain ⟨s, x, p⟩ := c
  cases s with
  | union options message => cases h
  | array element rules =>
    match x with
    | some (.array items) =>
      simp only [run, parts, Schema.validate, List.mapM_map]
      rfl
    | none | some .null | some (.bool _) | some (.number _) | some (.string _)
    | some (.object _) => rfl
  | object shape unknownKeys message =>
    match x with
    | some (.object entries) =>
      simp only [run, parts, Schema.validate, validateFields_eq, bind_assoc, pure_bind]
      rfl
    | none | some .null | some (.bool _) | some (.number _) | some (.string _)
    | some (.array _) => rfl
  | optional inner | withDefault inner value =>
    match x with
    | none => rfl
    | some v => simp [run, parts, close, Schema.validate, List.mapM_cons]
  | nullable inner =>
    match x with
    | some .null => rfl
    | none | some (.bool _) | some (.number _) | some (.string _) | some (.array _)
    | some (.object _) => simp [run, parts, close, Schema.validate, List.mapM_cons]
  | refine inner check | transform inner mapper | boxed inner =>
    simp [run, parts, close, Schema.validate, List.mapM_cons]
  | _ => rfl

theorem close_nil {c : Call} (h : c.isUnion = false) (hp : c.parts = []) : c.close [] = c.run := by
  rw [run_eq h, hp]
  rfl

/-! ## Forms of calls

A call that is no union gathers, or decides alone, or wraps one part.
-/

/-- An object schema on an object, or an array schema on an array. -/
def Gathers : Call → Prop
  | ⟨.array _ _, some (.array _), _⟩ | ⟨.object _ _ _, some (.object _), _⟩ => True
  | _ => False

theorem isUnion_of_gathers {c : Call} (hg : c.Gathers) : c.isUnion = false := by
  unfold Gathers at hg
  split at hg
  · rfl
  · rfl
  · cases hg

/-- A call that wraps passes the verdict on its part on, or runs a callback after it, and does so
alike in any place. -/
theorem wraps {c : Call} (hu : c.isUnion = false) (hg : ¬ c.Gathers) (hp : c.parts ≠ []) :
    c.parts.length = 1 ∧
      ((∀ p v, close ⟨c.schema, c.input, p⟩ [v] = pure v) ∨
        ∃ (α : Type) (callback : Callback α) (next : Value → α → Value),
          (∀ v, (callback.run v).burst? = c.schema.burst? v) ∧
          ∀ p v, close ⟨c.schema, c.input, p⟩ [v] = callback.after p next v) := by
  obtain ⟨s, x, p⟩ := c
  cases s with
  | union options message => cases hu
  | array element rules =>
    match x with
    | some (.array items) => exact absurd trivial hg
    | none | some .null | some (.bool _) | some (.number _) | some (.string _)
    | some (.object _) => exact absurd rfl hp
  | object shape unknownKeys message =>
    match x with
    | some (.object entries) => exact absurd trivial hg
    | none | some .null | some (.bool _) | some (.number _) | some (.string _)
    | some (.array _) => exact absurd rfl hp
  | optional inner | withDefault inner value =>
    match x with
    | none => exact absurd rfl hp
    | some v => exact ⟨rfl, .inl fun _ _ => rfl⟩
  | nullable inner =>
    match x with
    | some .null => exact absurd rfl hp
    | none | some (.bool _) | some (.number _) | some (.string _) | some (.array _)
    | some (.object _) => exact ⟨rfl, .inl fun _ _ => rfl⟩
  | boxed inner => exact ⟨rfl, .inl fun _ _ => rfl⟩
  | refine inner check => exact ⟨rfl, .inr ⟨Unit, check, _, fun _ => rfl, fun _ _ => rfl⟩⟩
  | transform inner mapper => exact ⟨rfl, .inr ⟨Value, mapper, _, fun _ => rfl, fun _ _ => rfl⟩⟩
  | _ => exact absurd rfl hp

end Call
end Schemata
