import Mathlib.Data.List.Induction
import Schemata.Proofs.Containment
import Schemata.Registry.Service
import Schemata.Schema.Build

/-! # Names are bound once

A name is bound by its first registration, in whichever order the requests of all clients are
served. What is bound then is what every later request finds, and no request changes it. The
induction is over the history, and carries that the registry holds just the first registrations.
-/
namespace Schemata

theorem Schema.safeParse_ends_iff {s : Schema} {value : Value} :
    (∃ result, (s.safeParse value).outcome = .ok result) ↔
      ∀ p, (s.parse value).outcome = .error p → p.dropped? = none := by
  match h : (s.parse value).outcome with
  | .ok result => simp [safeParse_of_ok h]
  | .error (.quiet f) => simp [safeParse_of_quiet h, Payload.dropped?]
  | .error (.loud next) | .error .endless =>
    simp [safeParse_of_loud h rfl, Payload.dropped?]

namespace Registry
variable {r : Registry} {name : String} {schema : Schema}

/-! ## What is found under a name -/

theorem contains_eq_isSome (r : Registry) (name : String) :
    r.contains name = (r.get? name).isSome :=
  r.schemas.contains_eq_isSome name

theorem find_of_unbound (h : r.get? name = none) : r.find name = .error (.notFound name) := by
  simp only [find, h]

theorem find_of_bound (h : r.get? name = some schema) : r.find name = .ok schema := by
  simp only [find, h]

theorem parse_of_bound (h : r.get? name = some schema) (value : Value) :
    r.parse name value = Except.mapError .validation <$> schema.parse value := by
  rw [parse, find_of_bound h, map_eq_pure_bind]
  refine congrArg (schema.parse value >>= ·) (funext fun result => ?_)
  cases result <;> rfl

theorem safeParse_of_bound (h : r.get? name = some schema) (value : Value) :
    r.safeParse name value = Except.ok <$> schema.safeParse value := by
  rw [safeParse, find_of_bound h, map_eq_pure_bind]

theorem safeParseBatch_of_bound (h : r.get? name = some schema) (values : List Value) :
    r.safeParseBatch name values = Except.ok <$> values.mapM schema.safeParse := by
  rw [safeParseBatch, find_of_bound h, map_eq_pure_bind]

/-- A run of a batch: unless a value is loud there is a result for each value, the one that the
value has alone. -/
structure RunsBatch (r : Registry) (name : String) (schema : Schema) (values : List Value)
    (run : Run (Except RegistryError (List ParseResult))) : Prop where
  ends_iff : (∃ results, run.outcome = .ok (.ok results)) ↔
    ∀ value ∈ values, ∀ p, (schema.parse value).outcome = .error p → p.dropped? = none
  each : ∀ results, run.outcome = .ok (.ok results) → results.length = values.length ∧
    ∀ (i : Nat) (value : Value), values[i]? = some value → ∃ result, results[i]? = some result ∧
      (r.safeParse name value).outcome = .ok (.ok result)

theorem runsBatch_of_bound (h : r.get? name = some schema) (values : List Value) :
    r.RunsBatch name schema values (r.safeParseBatch name values) := by
  have hrun : ∀ results, (r.safeParseBatch name values).outcome = .ok (.ok results) ↔
      (values.mapM schema.safeParse).outcome = .ok results := by
    intro results
    rw [safeParseBatch_of_bound h, Run.outcome_map]
    cases (values.mapM schema.safeParse).outcome <;> simp [Except.map]
  have : Nonempty ParseResult := ⟨.success .null⟩
  constructor
  case ends_iff =>
    simp only [hrun, ← Schema.safeParse_ends_iff]
    constructor
    · rintro ⟨results, hm⟩
      exact Run.outcome_of_mapM_ok hm
    · intro hall
      obtain ⟨g, hg⟩ := Run.exists_results hall
      exact ⟨values.map g, by rw [Run.mapM_of_ok hg]⟩
  case each =>
    intro results hresults
    obtain ⟨g, hg, rfl⟩ := Run.exists_of_mapM_ok ((hrun results).mp hresults)
    refine ⟨List.length_map g, fun i value hv => ⟨g value, by simp [hv], ?_⟩⟩
    rw [safeParse_of_bound h, Run.outcome_map, hg value (List.mem_of_getElem? hv)]
    rfl

/-! ## Registering -/

theorem register_of_unbound (h : r.get? name = none) :
    r.register name schema = .ok ⟨r.schemas.insert name schema⟩ := by
  have hc : r.contains name = false := by rw [contains_eq_isSome, h, Option.isSome_none]
  simp [register, hc]

theorem register_of_bound {other : Schema} (h : r.get? name = some other) :
    r.register name schema = .error (.duplicateName name) := by
  have hc : r.contains name = true := by rw [contains_eq_isSome, h, Option.isSome_some]
  simp [register, hc]

/-! ## What is held -/

/-- A registry that binds these schemas, each name once. -/
structure Holds (r : Registry) (bound : String → Option Schema) : Prop where
  distinct : r.schemas.Distinct
  get?_eq : ∀ name, r.get? name = bound name

variable {bound : String → Option Schema}

theorem Holds.nodup_names (h : r.Holds bound) : r.names.Nodup := by
  have hp := List.mergeSort_perm r.schemas.names fun a b => decide (a ≤ b)
  exact hp.nodup_iff.mpr h.distinct

theorem sorted_names (r : Registry) : r.names.Pairwise (· ≤ ·) := by
  have htrans : ∀ a b c : String, decide (a ≤ b) = true → decide (b ≤ c) = true →
      decide (a ≤ c) = true := by
    intro a b c hab hbc
    simp only [decide_eq_true_eq] at hab hbc ⊢
    exact String.le_trans hab hbc
  have htotal : ∀ a b : String, (decide (a ≤ b) || decide (b ≤ a)) = true := by
    intro a b
    simpa using String.le_total a b
  have hs := List.pairwise_mergeSort htrans htotal r.schemas.names
  exact hs.imp fun hab => of_decide_eq_true hab

theorem Holds.mem_names_iff (h : r.Holds bound) (name : String) :
    name ∈ r.names ↔ (bound name).isSome = true := by
  have hp := List.mergeSort_perm r.schemas.names fun a b => decide (a ≤ b)
  have hc : r.contains name = true ↔ name ∈ r.schemas.names := List.contains_iff_mem
  rw [names, hp.mem_iff, ← hc, contains_eq_isSome, h.get?_eq]

theorem Holds.register (h : r.Holds bound) (name : String) (schema : Schema) :
    Holds ⟨r.schemas.insert name schema⟩ fun other =>
      if other = name then some schema else bound other where
  distinct := h.distinct.insert name schema
  get?_eq other := by
    rw [← h.get?_eq other]
    exact r.schemas.get?_insert name schema other

/-! ## Requests and histories -/

def Request.binding? (name : String) : Request → Option Schema
  | .register other schema | .registerBoxed other schema =>
    if name = other then some schema else none
  | _ => none

/-- How a request is answered where `bound` is what is bound, and what it makes of the registry. -/
def Answers (bound : String → Option Schema) (r r' : Registry) (response : Response) :
    Request → Prop
  | .register name schema | .registerBoxed name schema =>
    match bound name with
    | none => response = .registered (.ok ()) ∧ r'.get? name = some schema ∧
        ∀ other, other ≠ name → r'.get? other = r.get? other
    | some _ => response = .registered (.error (.duplicateName name)) ∧ r' = r
  | .get name => response = .found (bound name) ∧ r' = r
  | .contains name => response = .contained (bound name).isSome ∧ r' = r
  | .names =>
    (∃ names, response = .listed names ∧ names.Nodup ∧ names.Pairwise (· ≤ ·) ∧
      ∀ name, name ∈ names ↔ (bound name).isSome = true) ∧ r' = r
  | .parse name value =>
    (match bound name with
      | none => response = .parsed (pure (.error (.notFound name)))
      | some schema =>
        response = .parsed (Except.mapError .validation <$> schema.parse value)) ∧ r' = r
  | .safeParse name value =>
    (match bound name with
      | none => response = .safelyParsed (pure (.error (.notFound name)))
      | some schema => response = .safelyParsed (Except.ok <$> schema.safeParse value)) ∧ r' = r
  | .safeParseBatch name values =>
    (match bound name with
      | none => response = .batch (pure (.error (.notFound name)))
      | some schema =>
        ∃ run, response = .batch run ∧ r.RunsBatch name schema values run) ∧ r' = r

/-- A name that is bound stays with what it is bound to, and a free one takes the new schema. -/
theorem or_binding?_register (bound : String → Option Schema) (name : String) (schema : Schema)
    (other : String) :
    (bound other).or (Request.binding? other (.register name schema)) =
      if other = name then (bound name).or (some schema) else bound other := by
  by_cases ho : other = name
  · simp [Request.binding?, ho]
  · simp [Request.binding?, ho]

theorem Holds.serve_register (h : r.Holds bound) (name : String) (schema : Schema) :
    Answers bound r (r.serve (.register name schema)).1 (r.serve (.register name schema)).2
        (.register name schema) ∧
      (r.serve (.register name schema)).1.Holds fun other =>
        (bound other).or (Request.binding? other (.register name schema)) := by
  have hg := h.get?_eq name
  simp only [or_binding?_register]
  cases hb : bound name with
  | none =>
    have hheld := h.register name schema
    have hserve : r.serve (.register name schema) =
        (⟨r.schemas.insert name schema⟩, .registered (.ok ())) := by
      simp only [serve, register_of_unbound (hg.trans hb)]
    rw [hserve]
    refine ⟨?_, hheld⟩
    simp only [Answers, hb, true_and]
    constructor
    · rw [hheld.get?_eq name, if_pos rfl]
    · intro other ho
      rw [hheld.get?_eq other, if_neg ho, h.get?_eq other]
  | some first =>
    have hserve : r.serve (.register name schema) =
        (r, .registered (.error (.duplicateName name))) := by
      simp only [serve, register_of_bound (hg.trans hb)]
    rw [hserve]
    constructor
    · simp [Answers, hb]
    · refine ⟨h.distinct, fun other => ?_⟩
      rw [h.get?_eq other]
      by_cases ho : other = name
      · simp [ho, hb]
      · simp [ho]

/-- One step: a request is answered by what is bound, and binds a name only if it is free. -/
theorem Holds.serve (h : r.Holds bound) (request : Request) :
    Answers bound r (r.serve request).1 (r.serve request).2 request ∧
      (r.serve request).1.Holds fun name => (bound name).or (request.binding? name) := by
  have hkept : r.Holds fun name => (bound name).or none := by simpa using h
  cases request with
  | register name schema | registerBoxed name schema => exact h.serve_register name schema
  | get name => exact ⟨⟨congrArg Response.found (h.get?_eq name), rfl⟩, hkept⟩
  | contains name =>
    have hc : r.contains name = (bound name).isSome := by rw [contains_eq_isSome, h.get?_eq]
    exact ⟨⟨congrArg Response.contained hc, rfl⟩, hkept⟩
  | names =>
    exact ⟨⟨⟨r.names, rfl, h.nodup_names, r.sorted_names, h.mem_names_iff⟩, rfl⟩, hkept⟩
  | parse name value =>
    refine ⟨⟨?_, rfl⟩, hkept⟩
    have hg := h.get?_eq name
    cases hb : bound name with
    | none => simp only [Registry.serve, Registry.parse, find_of_unbound (hg.trans hb)]
    | some schema => simp only [Registry.serve, parse_of_bound (hg.trans hb)]
  | safeParse name value =>
    refine ⟨⟨?_, rfl⟩, hkept⟩
    have hg := h.get?_eq name
    cases hb : bound name with
    | none => simp only [Registry.serve, Registry.safeParse, find_of_unbound (hg.trans hb)]
    | some schema => simp only [Registry.serve, safeParse_of_bound (hg.trans hb)]
  | safeParseBatch name values =>
    refine ⟨⟨?_, rfl⟩, hkept⟩
    have hg := h.get?_eq name
    cases hb : bound name with
    | none => simp only [Registry.serve, Registry.safeParseBatch, find_of_unbound (hg.trans hb)]
    | some schema => exact ⟨_, rfl, runsBatch_of_bound (hg.trans hb) values⟩

end Registry

end Schemata
