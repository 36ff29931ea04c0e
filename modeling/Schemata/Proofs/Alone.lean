import Schemata.Proofs.Call

/-! # Calls that decide alone

A call that neither gathers nor wraps, and is no union, comes to an output or to issues that it
finds by itself. It finds the same in every place, which only stands before the paths of its issues.
A leaf is such a call, and the output of a leaf is its input.
-/
namespace Schemata

/-! ## Verdicts in another place -/

/-- The issue with a path put before its own. -/
def Issue.under (p : Path) (i : Issue) : Issue := { i with path := p ++ i.path }

def Issues.under (p : Path) (is : Issues) : Issues :=
  ⟨is.first.under p, is.rest.map (Issue.under p)⟩

def Verdict.under (p : Path) : Verdict → Verdict
  | .ok out => .ok out
  | .error is => .error (is.under p)

@[simp] theorem Issues.toList_under (p : Path) (is : Issues) :
    (is.under p).toList = is.toList.map (Issue.under p) := rfl

theorem Rules.issues_under {κ : Type} (rs : Rules κ) (violation : κ → Option Violation)
    (p q : Path) : rs.issues violation (p ++ q) = (rs.issues violation q).map (Issue.under p) := by
  simp only [issues, List.map_filterMap, Option.map_map]
  rfl

namespace Verdict
variable {p : Path}

@[simp] theorem under_ok (out : Option Value) : under p (.ok out) = .ok out := rfl

@[simp] theorem under_error (is : Issues) : under p (.error is) = .error (is.under p) := rfl

@[simp] theorem under_eq_ok_iff {v : Verdict} {out : Option Value} :
    v.under p = .ok out ↔ v = .ok out := by
  cases v <;> simp

@[simp] theorem issues_under (v : Verdict) : (v.under p).issues = v.issues.map (Issue.under p) := by
  cases v <;> rfl

@[simp] theorem value?_under (v : Verdict) : (v.under p).value? = v.value? := by
  cases v <;> rfl

@[simp] theorem under_conclude (value : Value) (is : List Issue) :
    (conclude value is).under p = conclude value (is.map (Issue.under p)) := by
  cases is <;> rfl

theorem under_under (p q : Path) (v : Verdict) : (v.under q).under p = v.under (p ++ q) := by
  cases v with
  | ok out => rfl
  | error is => simp [Issues.under, Issue.under, Function.comp_def]

/-- An output, unless something was found against it. -/
def settle (out : Option Value) (is : List Issue) : Verdict :=
  match Issues.ofList? is with
  | none => .ok out
  | some is => .error is

@[simp] theorem issues_settle (out : Option Value) (is : List Issue) :
    (settle out is).issues = is := by
  cases is <;> rfl

theorem settle_eq_ok_iff {out o : Option Value} {is : List Issue} :
    settle out is = .ok o ↔ is = [] ∧ o = out := by
  cases is with
  | nil => simp [settle, Issues.ofList?, eq_comm]
  | cons i is => simp [settle, Issues.ofList?]

end Verdict

/-! ## Own issues -/

namespace Call

/-- What holds of the issues that a call finds by itself. -/
structure Own (c : Call) (i : Issue) : Prop where
  path : i.path = c.path
  received : i.code = .invalidUnion ∨ i.code = .invalidType ∧ i.expected ≠ some "integer" →
    i.received = some (Kind.of c.input).name
  code : i.code ≠ .unknownError

variable {c : Call} {i : Issue}

theorem own_of_code (hp : i.path = c.path) (hu : i.code ≠ .invalidUnion)
    (ht : i.code = .invalidType → i.expected = some "integer") (hk : i.code ≠ .unknownError) :
    c.Own i := by
  refine ⟨hp, ?_, hk⟩
  rintro (h | ⟨h, he⟩)
  · exact absurd h hu
  · exact absurd (ht h) he

theorem own_of_violation {κ : Type} {rs : Rules κ} {violation : κ → Option Violation}
    (hv : ∀ k v, violation k = some v → v.code ≠ .invalidUnion ∧ v.code ≠ .unknownError ∧
      (v.code = .invalidType → v.expected = some "integer"))
    (h : i ∈ rs.issues violation c.path) : c.Own i := by
  obtain ⟨r, _, v, hrv, rfl⟩ := Rules.mem_issues_iff.mp h
  obtain ⟨hu, hk, ht⟩ := hv _ _ hrv
  exact own_of_code rfl hu ht hk

theorem Own.under {s : Schema} {x : Option Value} {q : Path} (h : Own ⟨s, x, q⟩ i) (p : Path) :
    Own ⟨s, x, p ++ q⟩ (i.under p) :=
  ⟨congrArg (p ++ ·) h.path, h.received, h.code⟩

end Call

namespace Schema
variable {s : Schema} {x out : Option Value} {i : Issue}

/-! ## Decisions -/

/-- A node that, on an input, finds the same issues in every place and without them has the same
output. The issues are written as they stand at the root. -/
structure Decides (s : Schema) (x out : Option Value) (is : List Issue) : Prop where
  run : ∀ p, s.validate x p = pure ((Verdict.settle out is).under p)
  own : ∀ i ∈ is, Call.Own ⟨s, x, Path.root⟩ i

theorem decides_output (h : ∀ p, s.validate x p = pure (.ok out)) : s.Decides x out [] :=
  ⟨h, List.forall_mem_nil _⟩

theorem decides_refusal (ho : Call.Own ⟨s, x, Path.root⟩ i)
    (h : ∀ p, s.validate x p = pure (.error (.single { i with path := p }))) :
    s.Decides x out [i] where
  run p := by
    have hi : i.under p = { i with path := p } := by
      rw [Issue.under, ho.path, Path.root, List.append_nil]
    rw [h p, ← hi]
    rfl
  own := List.forall_mem_singleton.mpr ho

theorem exists_decides_if {b : Prop} [Decidable b] (ho : Call.Own ⟨s, x, Path.root⟩ i)
    (h : ∀ p, s.validate x p =
      pure (if b then .ok out else .error (.single { i with path := p }))) :
    ∃ is, s.Decides x out is := by
  by_cases hb : b
  · exact ⟨[], decides_output fun p => by rw [h p, if_pos hb]⟩
  · exact ⟨[i], decides_refusal ho fun p => by rw [h p, if_neg hb]⟩

theorem decides_mismatch {expected : String} {message : Option String}
    (h : ∀ p, s.validate x p = pure (.error (.single (invalidType expected message x p)))) :
    s.Decides x out [invalidType expected message x Path.root] :=
  decides_refusal ⟨rfl, fun _ => rfl, by simp [invalidType]⟩ h

theorem decides_rules {κ : Type} {rs : Rules κ} {violation : κ → Option Violation} {value : Value}
    (hv : ∀ k v, violation k = some v → v.code ≠ .invalidUnion ∧ v.code ≠ .unknownError ∧
      (v.code = .invalidType → v.expected = some "integer"))
    (h : ∀ p, s.validate x p = pure (.conclude value (rs.issues violation p))) :
    s.Decides x (some value) (rs.issues violation Path.root) where
  run p := by
    have hi := rs.issues_under violation p Path.root
    rw [Path.root, List.append_nil] at hi
    rw [h p, hi, ← Verdict.under_conclude]
    rfl
  own _ hi := Call.own_of_violation hv hi

/-- A node without a schema in it. -/
def isLeaf : Schema → Bool
  | .string _ | .number _ | .boolean _ | .literal _ _ | .choice _ _ | .null | .undefined | .void
  | .any | .unknown => true
  | _ => false

theorem exists_string (rules : StringRules) (x : Option Value) :
    ∃ is, Decides (.string rules) x x is := by
  match x with
  | some (.string str) =>
    refine ⟨_, decides_rules (fun k v hv => ?_) fun p => rfl⟩
    rcases StringConstraint.code_of_violation hv with hc | hc | hc <;> simp [hc]
  | none | some .null | some (.bool _) | some (.number _) | some (.array _) | some (.object _) =>
    exact ⟨_, decides_mismatch fun p => rfl⟩

theorem exists_number (rules : NumberRules) (x : Option Value) :
    ∃ is, Decides (.number rules) x x is := by
  match x with
  | some (.number n) =>
    refine ⟨_, decides_rules (fun k v hv => ?_) fun p => rfl⟩
    rcases NumberConstraint.code_of_violation hv with hc | hc | ⟨hc, he⟩
    · simp [hc]
    · simp [hc]
    · simp [hc, he]
  | none | some .null | some (.bool _) | some (.string _) | some (.array _) | some (.object _) =>
    exact ⟨_, decides_mismatch fun p => rfl⟩

theorem exists_literal (value : Value) (message : Option String) (x : Option Value) :
    ∃ is, Decides (.literal value message) x x is := by
  have ho : ∀ m r e, Call.Own ⟨.literal value message, x, Path.root⟩
      ⟨Path.root, m, .invalidLiteral, r, e⟩ := fun m r e =>
    Call.own_of_code rfl (by simp) (by simp) (by simp)
  match x with
  | none => exact ⟨_, decides_refusal (ho ..) fun p => rfl⟩
  | some v => exact exists_decides_if (ho ..) fun p => rfl

theorem exists_choice (options : List String) (message : Option String) (x : Option Value) :
    ∃ is, Decides (.choice options message) x x is := by
  have ho : ∀ m r e, Call.Own ⟨.choice options message, x, Path.root⟩
      ⟨Path.root, m, .invalidEnumValue, r, e⟩ := fun m r e =>
    Call.own_of_code rfl (by simp) (by simp) (by simp)
  match x with
  | some (.string str) => exact exists_decides_if (ho ..) fun p => rfl
  | none | some .null | some (.bool _) | some (.number _) | some (.array _) | some (.object _) =>
    exact ⟨_, decides_refusal (ho ..) fun p => rfl⟩

theorem exists_leaf (hs : s.isLeaf = true) (x : Option Value) : ∃ is, s.Decides x x is := by
  cases s with
  | string rules => exact exists_string rules x
  | number rules => exact exists_number rules x
  | literal value message => exact exists_literal value message x
  | choice options message => exact exists_choice options message x
  | boolean message =>
    match x with
    | some (.bool b) => exact ⟨_, decides_output fun p => rfl⟩
    | none | some .null | some (.number _) | some (.string _) | some (.array _)
    | some (.object _) => exact ⟨_, decides_mismatch fun p => rfl⟩
  | null =>
    match x with
    | some .null => exact ⟨_, decides_output fun p => rfl⟩
    | none | some (.bool _) | some (.number _) | some (.string _) | some (.array _)
    | some (.object _) => exact ⟨_, decides_mismatch fun p => rfl⟩
  | undefined | void =>
    match x with
    | none => exact ⟨_, decides_output fun p => rfl⟩
    | some v => exact ⟨_, decides_mismatch fun p => rfl⟩
  | any | unknown => exact ⟨_, decides_output fun p => rfl⟩
  | _ => cases hs

theorem eq_of_leaf_ok {p : Path} (hs : s.isLeaf = true)
    (h : (s.validate x p).outcome = .ok (.ok out)) : out = x := by
  obtain ⟨is, hd⟩ := exists_leaf hs x
  rw [hd.run p] at h
  exact (Verdict.settle_eq_ok_iff.mp (Verdict.under_eq_ok_iff.mp (Except.ok.inj h))).2

end Schema

theorem Call.exists_decides {c : Call} (hc : c.schema.isCustom = false) (hu : c.isUnion = false)
    (hg : ¬ c.Gathers) (hp : c.parts = []) : ∃ out is, c.schema.Decides c.input out is := by
  obtain ⟨s, x, p⟩ := c
  cases s with
  | custom name run => cases hc
  | union options message => cases hu
  | array element rules =>
    match x with
    | some (.array items) => exact absurd trivial hg
    | none | some .null | some (.bool _) | some (.number _) | some (.string _)
    | some (.object _) => exact ⟨none, _, Schema.decides_mismatch fun p => rfl⟩
  | object shape unknownKeys message =>
    match x with
    | some (.object entries) => exact absurd trivial hg
    | none | some .null | some (.bool _) | some (.number _) | some (.string _)
    | some (.array _) => exact ⟨none, _, Schema.decides_mismatch fun p => rfl⟩
  | optional inner | withDefault inner value =>
    match x with
    | none => exact ⟨_, _, Schema.decides_output fun p => rfl⟩
    | some v => cases hp
  | nullable inner =>
    match x with
    | some .null => exact ⟨_, _, Schema.decides_output fun p => rfl⟩
    | none | some (.bool _) | some (.number _) | some (.string _) | some (.array _)
    | some (.object _) => cases hp
  | refine inner check | transform inner mapper | boxed inner => cases hp
  | _ => exact ⟨x, Schema.exists_leaf rfl x⟩

end Schemata
