import Schemata.Proofs.Repetition

/-! # Whose message it is

Rules are built by a chain of calls. Read from the left, the chain is a history of constraints and
messages: a constraint has the last of the messages between it and the next constraint, and the last
of those before all constraints is for a value of the wrong kind. One step changes no rule but the
newest, so the runs over a history follow the newest rule until the next one is added.
-/
namespace Schemata

namespace Rules

/-- What one call of a chain adds to rules. -/
inductive Clause (κ : Type)
  | add (constraint : κ)
  | error (message : String)

variable {κ : Type}

namespace Clause

def apply (rs : Rules κ) : Clause κ → Rules κ
  | add constraint => rs.add constraint
  | error message => rs.error message

def constraint? : Clause κ → Option κ
  | add constraint => some constraint
  | error _ => .none

def message? : Clause κ → Option String
  | add _ => .none
  | error message => some message

end Clause

def built (history : List (Clause κ)) : Rules κ := history.foldl Clause.apply .none

def constraints (rs : Rules κ) : List κ := rs.rules.map Rule.constraint

def constraintsOf (history : List (Clause κ)) : List κ := history.filterMap Clause.constraint?

/-- The last of the messages before the first constraint of a history. -/
def opening? (history : List (Clause κ)) : Option String :=
  ((history.takeWhile fun c => c.constraint?.isNone).filterMap Clause.message?).getLast?

/-! ## One step -/

section Step
variable (rs : Rules κ) (message : String)

theorem getElem?_error (i : Nat) : (rs.error message).rules[i]? =
    if i + 1 = rs.rules.length then rs.rules[i]?.map fun r => ⟨r.constraint, some message⟩
    else rs.rules[i]? := by
  rcases List.eq_nil_or_concat rs.rules with h | ⟨before, last, h⟩
  · simp [error, h]
  · simp only [error, h, List.concat_eq_append, List.getLast?_append, List.getLast?_singleton,
      Option.some_or, List.dropLast_concat, List.length_append, List.length_singleton]
    rcases Nat.lt_trichotomy i before.length with hi | rfl | hi
    · rw [if_neg (by omega), List.getElem?_append_left hi, List.getElem?_append_left hi]
    · simp
    · rw [if_neg (by omega), List.getElem?_eq_none (by simp; omega),
        List.getElem?_eq_none (by simp; omega)]

theorem typeMessage_error : (rs.error message).typeMessage =
    if rs.rules = [] then some message else rs.typeMessage := by
  rcases List.eq_nil_or_concat rs.rules with h | ⟨before, last, h⟩ <;> simp [error, h]

theorem constraints_error : (rs.error message).constraints = rs.constraints := by
  rcases List.eq_nil_or_concat rs.rules with h | ⟨before, last, h⟩ <;>
    simp [constraints, error, h]

theorem constraints_apply (rs : Rules κ) (c : Clause κ) :
    (c.apply rs).constraints = rs.constraints ++ constraintsOf [c] := by
  cases c with
  | add constraint => simp [Clause.apply, constraints, add, constraintsOf, Clause.constraint?]
  | error message =>
    rw [Clause.apply, constraints_error]
    exact (List.append_nil _).symm

theorem length_constraints (rs : Rules κ) : rs.constraints.length = rs.rules.length :=
  List.length_map _

end Step

/-! ## A history -/

section History
variable {rs rs' : Rules κ} {c : κ} {message : Option String} {i k : Nat}

theorem constraintsOf_append (before after : List (Clause κ)) :
    constraintsOf (before ++ after) = constraintsOf before ++ constraintsOf after :=
  List.filterMap_append

theorem opening?_error (message : String) (history : List (Clause κ)) :
    opening? (.error message :: history) = (opening? history).or (some message) := by
  simp only [opening?, List.takeWhile_cons, Clause.constraint?, Option.isNone_none, if_true,
    List.filterMap_cons, Clause.message?, List.getLast?_cons]
  cases List.getLast? _ <;> rfl

theorem constraints_foldl (history : List (Clause κ)) (rs : Rules κ) :
    (history.foldl Clause.apply rs).constraints = rs.constraints ++ constraintsOf history := by
  induction history generalizing rs with
  | nil => exact (List.append_nil _).symm
  | cons c history ih =>
    rw [List.foldl_cons, ih, constraints_apply, List.append_assoc, ← constraintsOf_append]
    rfl

theorem getElem?_foldl_of_lt (history : List (Clause κ)) (h : i + 1 < rs.rules.length) :
    (history.foldl Clause.apply rs).rules[i]? = rs.rules[i]? := by
  induction history generalizing rs with
  | nil => rfl
  | cons c history ih =>
    rw [List.foldl_cons]
    cases c with
    | add constraint =>
      rw [ih (by simp [Clause.apply, add]; omega)]
      exact List.getElem?_append_left (by omega)
    | error message =>
      have hlen : (rs.error message).rules.length = rs.rules.length := by
        rw [← length_constraints, constraints_error, length_constraints]
      rw [Clause.apply, ih (by omega), getElem?_error, if_neg (by omega)]

/-- The newest rule has the last message before the next constraint, or the one that it had. -/
theorem getElem?_foldl_of_newest (history : List (Clause κ)) (h : i + 1 = rs.rules.length)
    (hr : rs.rules[i]? = some ⟨c, message⟩) :
    (history.foldl Clause.apply rs).rules[i]? = some ⟨c, (opening? history).or message⟩ := by
  induction history generalizing rs message with
  | nil => exact hr
  | cons clause history ih =>
    rw [List.foldl_cons]
    cases clause with
    | add constraint =>
      rw [getElem?_foldl_of_lt _ (by simp [Clause.apply, add]; omega)]
      exact (List.getElem?_append_left (by omega)).trans hr
    | error later =>
      have hlen : (rs.error later).rules.length = rs.rules.length := by
        rw [← length_constraints, constraints_error, length_constraints]
      have hnew : (rs.error later).rules[i]? = some ⟨c, some later⟩ := by
        rw [getElem?_error, if_pos h, hr]
        rfl
      rw [Clause.apply, ih (by omega) hnew, opening?_error, Option.or_assoc]
      rfl

theorem typeMessage_foldl_of_ne_nil (history : List (Clause κ)) (h : rs.rules ≠ []) :
    (history.foldl Clause.apply rs).typeMessage = rs.typeMessage := by
  induction history generalizing rs with
  | nil => rfl
  | cons c history ih =>
    rw [List.foldl_cons]
    cases c with
    | add constraint => exact ih (by simp [Clause.apply, add])
    | error message =>
      have hne : (rs.error message).rules ≠ [] := by
        rw [← List.length_pos_iff, ← length_constraints, constraints_error, length_constraints]
        exact List.length_pos_iff.mpr h
      rw [Clause.apply, ih hne, typeMessage_error, if_neg h]

theorem typeMessage_foldl_of_nil (history : List (Clause κ)) (h : rs.rules = []) :
    (history.foldl Clause.apply rs).typeMessage = (opening? history).or rs.typeMessage := by
  induction history generalizing rs with
  | nil => rfl
  | cons c history ih =>
    rw [List.foldl_cons]
    cases c with
    | add constraint => exact typeMessage_foldl_of_ne_nil history (by simp [Clause.apply, add])
    | error message =>
      have hnil : (rs.error message).rules = [] := by simp [error, h]
      rw [Clause.apply, ih hnil, typeMessage_error, if_pos h, opening?_error, Option.or_assoc]
      rfl

/-- The same rules, but for the message of the newest of the first `k`. The message for a wrong kind
may differ if there is no such rule. -/
structure SameBut (k : Nat) (rs rs' : Rules κ) : Prop where
  constraints : rs.constraints = rs'.constraints
  others : ∀ i, i + 1 ≠ k → rs.rules[i]? = rs'.rules[i]?
  typeMessage : k ≠ 0 → rs.typeMessage = rs'.typeMessage

theorem sameBut_error (rs : Rules κ) (message : String) :
    SameBut rs.rules.length (rs.error message) rs where
  constraints := constraints_error rs message
  others := fun i hi => by rw [getElem?_error, if_neg hi]
  typeMessage := fun hk => by
    rw [typeMessage_error, if_neg (List.length_pos_iff.mp (Nat.pos_of_ne_zero hk))]

/-- What differs in one message still differs in it only, whatever is called next. -/
theorem SameBut.apply (h : SameBut k rs rs') (c : Clause κ) :
    SameBut k (c.apply rs) (c.apply rs') := by
  have hlen : rs.rules.length = rs'.rules.length := by
    rw [← length_constraints, h.constraints, length_constraints]
  cases c with
  | add constraint =>
    refine ⟨by rw [constraints_apply, constraints_apply, h.constraints], fun i hi => ?_,
      h.typeMessage⟩
    simp only [Clause.apply, add, List.getElem?_append, hlen, h.others i hi]
  | error message =>
    refine ⟨by rw [constraints_apply, constraints_apply, h.constraints], fun i hi => ?_, ?_⟩
    · simp only [Clause.apply, getElem?_error, hlen, h.others i hi]
    · intro hk
      have hnil : rs.rules = [] ↔ rs'.rules = [] := by
        rw [← List.length_eq_zero_iff, hlen, List.length_eq_zero_iff]
      simp only [Clause.apply, typeMessage_error, hnil, h.typeMessage hk]

theorem SameBut.foldl (h : SameBut k rs rs') (history : List (Clause κ)) :
    SameBut k (history.foldl Clause.apply rs) (history.foldl Clause.apply rs') := by
  induction history generalizing rs rs' with
  | nil => exact h
  | cons c history ih => exact ih (h.apply c)

/-- What a history makes of rules. -/
structure Records (history : List (Clause κ)) (rs : Rules κ) : Prop where
  typeMessage : rs.typeMessage = opening? history
  constraints : rs.constraints = constraintsOf history
  message : ∀ before c after, history = before ++ .add c :: after →
    rs.rules[(constraintsOf before).length]? = some ⟨c, opening? after⟩
  alone : ∀ before message after, history = before ++ .error message :: after →
    SameBut (constraintsOf before).length rs (built (before ++ after))

theorem length_built (history : List (Clause κ)) :
    (built history).rules.length = (constraintsOf history).length := by
  rw [← length_constraints, built, constraints_foldl]
  rfl

theorem records_built (history : List (Clause κ)) : Records history (built history) where
  typeMessage := by
    rw [built, typeMessage_foldl_of_nil history rfl]
    exact Option.or_none
  constraints := constraints_foldl history .none
  message := by
    rintro before c after rfl
    have hlen : (constraintsOf before).length + 1 = ((built before).add c).rules.length := by
      simp [add, length_built]
    have hnew : ((built before).add c).rules[(constraintsOf before).length]? =
        some ⟨c, Option.none⟩ := by
      rw [← length_built]
      exact List.getElem?_concat_length
    rw [built, List.foldl_append, List.foldl_cons]
    exact (getElem?_foldl_of_newest after hlen hnew).trans (by rw [Option.or_none])
  alone := by
    rintro before message after rfl
    rw [built, built, List.foldl_append, List.foldl_append, List.foldl_cons, ← length_built]
    exact (sameBut_error (built before) message).foldl after

end History

end Rules

/-! ## Kinds of schema with rules -/

/-- A kind of schema with rules, for values that hold a `σ`. Its builder is called with a `γ` at a
time, which adds some clauses or fails. -/
structure Ruled (γ κ σ : Type) where
  call? : Rules κ → γ → Option (Rules κ)
  clauses? : γ → Option (List (Rules.Clause κ))
  schema : Rules κ → Schema
  kind : Kind
  value : σ → Value
  holds : σ → κ → Bool
  violation : σ → κ → Option Violation
  call?_eq : ∀ rs call,
    call? rs call = (clauses? call).map fun clauses => clauses.foldl Rules.Clause.apply rs
  violation_eq_none_iff : ∀ a c, violation a c = none ↔ holds a c = true
  exists_value : ∀ x, Kind.of x = kind → ∃ a, x = some (value a)
  validate_of_kind_ne : ∀ rs x p, Kind.of x ≠ kind →
    (schema rs).validate x p = pure (.error (.single (invalidType kind.name rs.typeMessage x p)))
  issues_value : ∀ rs a p (alone : Call → Verdict),
    (∀ d ∈ Call.parts ⟨schema rs, some (value a), p⟩, d.run.outcome = .ok (alone d)) →
      ∃ w, ((schema rs).validate (some (value a)) p).outcome = .ok w ∧
        w.issues = rs.issues (violation a) p ++
          (Call.parts ⟨schema rs, some (value a), p⟩).flatMap fun d => (alone d).issues

namespace Ruled
variable {γ κ σ : Type} (k : Ruled γ κ σ)

def build? (calls : List γ) : Option (Rules κ) := calls.foldlM k.call? .none

/-- The history of a chain of calls. -/
def history? (calls : List γ) : Option (List (Rules.Clause κ)) :=
  (calls.mapM k.clauses?).map List.flatten

/-- The issue of a rule that a value of the kind breaks. -/
def Reported (a : σ) (p : Path) (r : Rule κ) (i : Issue) : Prop :=
  ∃ v, k.violation a r.constraint = some v ∧
    i = ⟨p, r.message.getD v.message, v.code, v.received, v.expected⟩

def broken (rs : Rules κ) (a : σ) : List (Rule κ) :=
  rs.rules.filter fun r => !k.holds a r.constraint

/-- What inputs meet of the rules that a history leads to. -/
structure Attributes (history : List (Rules.Clause κ)) (rs : Rules κ) : Prop where
  records : rs.Records history
  wrong_kind : ∀ x p, Kind.of x ≠ k.kind →
    (k.schema rs).validate x p = pure (.error (.single ⟨p, (Rules.opening? history).getD
      (if Kind.of x = .undefined then "Required"
        else "Expected " ++ k.kind.name ++ ", received " ++ (Kind.of x).name),
      .invalidType, some (Kind.of x).name, some k.kind.name⟩))
  right_kind : ∀ x p, Kind.of x = k.kind → ∃ a, x = some (k.value a) ∧
    ∀ alone : Call → Verdict,
      (∀ d ∈ Call.parts ⟨k.schema rs, x, p⟩, d.run.outcome = .ok (alone d)) →
        ∃ w own, ((k.schema rs).validate x p).outcome = .ok w ∧
          w.issues = own ++ (Call.parts ⟨k.schema rs, x, p⟩).flatMap (fun d => (alone d).issues) ∧
          List.Forall₂ (k.Reported a p) (k.broken rs a) own

theorem foldlM_call? (calls : List γ) (rs : Rules κ) : calls.foldlM k.call? rs =
    (k.history? calls).map fun history => history.foldl Rules.Clause.apply rs := by
  induction calls generalizing rs with
  | nil => rfl
  | cons call calls ih =>
    rw [List.foldlM_cons, k.call?_eq, history?, List.mapM_cons]
    cases k.clauses? call with
    | none => rfl
    | some clauses =>
      show calls.foldlM k.call? (clauses.foldl Rules.Clause.apply rs) = _
      rw [ih, history?]
      cases calls.mapM k.clauses? with
      | none => rfl
      | some more => simp

theorem build?_eq (calls : List γ) : k.build? calls = (k.history? calls).map Rules.built :=
  k.foldlM_call? calls .none

theorem history?_isSome_iff (calls : List γ) :
    (k.history? calls).isSome = true ↔ ∀ call ∈ calls, (k.clauses? call).isSome = true := by
  rw [history?, Option.isSome_map]
  induction calls with
  | nil => simp
  | cons call calls ih =>
    rw [List.mapM_cons, List.forall_mem_cons, ← ih]
    cases k.clauses? call with
    | none => simp
    | some clauses => cases calls.mapM k.clauses? <;> simp

/-- The issues of the rules are those of the broken ones, in their order. -/
theorem forall₂_reported (rs : Rules κ) (a : σ) (p : Path) :
    List.Forall₂ (k.Reported a p) (k.broken rs a) (rs.issues (k.violation a) p) := by
  unfold broken Rules.issues
  induction rs.rules with
  | nil => exact .nil
  | cons r rules ih =>
    cases hv : k.violation a r.constraint with
    | none =>
      have hh := (k.violation_eq_none_iff a r.constraint).mp hv
      simpa [hv, hh] using ih
    | some v =>
      have hh : k.holds a r.constraint = false := by
        rw [← Bool.not_eq_true, ← k.violation_eq_none_iff, hv]
        exact Option.some_ne_none v
      have hreported : k.Reported a p r (v.issue p r.message) := ⟨v, hv, rfl⟩
      simpa [hv, hh] using List.Forall₂.cons hreported ih

theorem attributes_built (history : List (Rules.Clause κ)) :
    k.Attributes history (Rules.built history) where
  records := Rules.records_built history
  wrong_kind := by
    intro x p hx
    rw [k.validate_of_kind_ne _ x p hx, (Rules.records_built history).typeMessage]
    rfl
  right_kind := by
    intro x p hx
    obtain ⟨a, rfl⟩ := k.exists_value x hx
    refine ⟨a, rfl, fun alone hr => ?_⟩
    obtain ⟨w, hw, hi⟩ := k.issues_value _ a p alone hr
    exact ⟨w, _, hw, hi, k.forall₂_reported _ a p⟩

/-- Every chain of calls that all succeed builds rules that its history accounts for. -/
def AttributesAll : Prop :=
  ∀ calls, ((k.build? calls).isSome = true ↔ ∀ call ∈ calls, (k.clauses? call).isSome = true) ∧
    ∀ history, k.history? calls = some history →
      ∃ rs, k.build? calls = some rs ∧ k.Attributes history rs

theorem attributesAll : k.AttributesAll := by
  intro calls
  refine ⟨?_, fun history h => ?_⟩
  · rw [build?_eq, Option.isSome_map]
    exact k.history?_isSome_iff calls
  · rw [build?_eq, h]
    exact ⟨_, rfl, k.attributes_built history⟩

end Ruled

/-! ## Strings, numbers and arrays -/

inductive StringStep
  | min (n : Nat)
  | max (n : Nat)
  | length (n : Nat)
  | nonempty
  | pattern (source : String)
  | email
  | url
  | uuid
  | startsWith (text : String)
  | endsWith (text : String)
  | error (message : String)

namespace StringStep

def call? (rs : StringRules) : StringStep → Option StringRules
  | min n => some (StringRules.min rs n)
  | max n => some (StringRules.max rs n)
  | length n => some (StringRules.length rs n)
  | nonempty => some (StringRules.nonempty rs)
  | pattern source => StringRules.pattern? rs source
  | email => some (StringRules.email rs)
  | url => some (StringRules.url rs)
  | uuid => some (StringRules.uuid rs)
  | startsWith text => some (StringRules.startsWith rs text)
  | endsWith text => some (StringRules.endsWith rs text)
  | error message => some (Rules.error rs message)

/-- What a call adds, if its pattern is well formed. -/
def clauses? : StringStep → Option (List (Rules.Clause StringConstraint))
  | min n => some [.add (.min n)]
  | max n => some [.add (.max n)]
  | length n => some [.add (.length n)]
  | nonempty => some [.add (.min 1)]
  | pattern source => (Pattern.ofText? source).map fun p => [.add (.pattern p)]
  | email => some [.add .email]
  | url => some [.add .url]
  | uuid => some [.add .uuid]
  | startsWith text => some [.add (.startsWith text)]
  | endsWith text => some [.add (.endsWith text)]
  | error message => some [.error message]

end StringStep

inductive NumberStep
  | integer
  | min (bound : Extended)
  | max (bound : Extended)
  | range (low high : Extended)
  | positive
  | negative
  | nonnegative
  | nonpositive
  | error (message : String)

namespace NumberStep

def apply (rs : NumberRules) : NumberStep → NumberRules
  | integer => rs.integer
  | min bound => NumberRules.min rs bound
  | max bound => NumberRules.max rs bound
  | range low high => NumberRules.range rs low high
  | positive => NumberRules.positive rs
  | negative => NumberRules.negative rs
  | nonnegative => NumberRules.nonnegative rs
  | nonpositive => NumberRules.nonpositive rs
  | error message => Rules.error rs message

/-- What a call adds: a range is two bounds. -/
def clauses : NumberStep → List (Rules.Clause NumberConstraint)
  | integer => [.add .integer]
  | min bound => [.add (.min bound)]
  | max bound => [.add (.max bound)]
  | range low high => [.add (.min low), .add (.max high)]
  | positive => [.add .positive]
  | negative => [.add .negative]
  | nonnegative => [.add .nonnegative]
  | nonpositive => [.add .nonpositive]
  | error message => [.error message]

end NumberStep

inductive ArrayStep
  | min (n : Nat)
  | max (n : Nat)
  | length (n : Nat)
  | nonempty
  | unique
  | error (message : String)

namespace ArrayStep

def apply (rs : ArrayRules) : ArrayStep → ArrayRules
  | min n => ArrayRules.min rs n
  | max n => ArrayRules.max rs n
  | length n => ArrayRules.length rs n
  | nonempty => ArrayRules.nonempty rs
  | unique => ArrayRules.unique rs
  | error message => Rules.error rs message

def clauses : ArrayStep → List (Rules.Clause ArrayConstraint)
  | min n => [.add (.min n)]
  | max n => [.add (.max n)]
  | length n => [.add (.length n)]
  | nonempty => [.add (.min 1)]
  | unique => [.add .unique]
  | error message => [.error message]

end ArrayStep

theorem ArrayConstraint.violation_eq_none_iff (items : List Value) (c : ArrayConstraint) :
    c.violation items = none ↔ c.holds items = true := by
  cases c with
  | min n | max n => simp [violation, holds]
  | length n =>
    simp only [violation, holds, beq_iff_eq]
    split
    · simp; omega
    · split
      · simp; omega
      · simp; omega
  | unique =>
    rw [holds, decide_eq_true_iff, ← repetitions_eq_nil_iff, ← not_iff_not]
    exact violation_unique_ne_none_iff

namespace Ruled

def string : Ruled StringStep StringConstraint String where
  call? := StringStep.call?
  clauses? := StringStep.clauses?
  schema := .string
  kind := .string
  value := .string
  holds := StringConstraint.holds
  violation s c := c.violation s
  call?_eq := by
    intro rs call
    cases call with
    | pattern source =>
      show (Pattern.ofText? source).map _ = ((Pattern.ofText? source).map _).map _
      rw [Option.map_map]
      rfl
    | _ => rfl
  violation_eq_none_iff := StringConstraint.violation_eq_none_iff
  exists_value := by
    intro x hx
    match x with
    | some (.string s) => exact ⟨s, rfl⟩
    | none | some .null | some (.bool _) | some (.number _) | some (.array _)
    | some (.object _) => cases hx
  validate_of_kind_ne := by
    intro rs x p hx
    match x with
    | some (.string s) => exact absurd rfl hx
    | none | some .null | some (.bool _) | some (.number _) | some (.array _)
    | some (.object _) => rfl
  issues_value := by
    intro rs s p alone _
    refine ⟨_, rfl, ?_⟩
    exact (Verdict.issues_conclude _ _).trans (List.append_nil _).symm

def number : Ruled NumberStep NumberConstraint Number where
  call? rs call := some (call.apply rs)
  clauses? call := some call.clauses
  schema := .number
  kind := .number
  value := .number
  holds := NumberConstraint.holds
  violation n c := c.violation n
  call?_eq := by
    intro rs call
    cases call <;> rfl
  violation_eq_none_iff := NumberConstraint.violation_eq_none_iff
  exists_value := by
    intro x hx
    match x with
    | some (.number n) => exact ⟨n, rfl⟩
    | none | some .null | some (.bool _) | some (.string _) | some (.array _)
    | some (.object _) => cases hx
  validate_of_kind_ne := by
    intro rs x p hx
    match x with
    | some (.number n) => exact absurd rfl hx
    | none | some .null | some (.bool _) | some (.string _) | some (.array _)
    | some (.object _) => rfl
  issues_value := by
    intro rs n p alone _
    refine ⟨_, rfl, ?_⟩
    exact (Verdict.issues_conclude _ _).trans (List.append_nil _).symm

def array (element : Schema) : Ruled ArrayStep ArrayConstraint (List Value) where
  call? rs call := some (call.apply rs)
  clauses? call := some call.clauses
  schema := .array element
  kind := .array
  value := .array
  holds := ArrayConstraint.holds
  violation items c := c.violation items
  call?_eq := by
    intro rs call
    cases call <;> rfl
  violation_eq_none_iff := ArrayConstraint.violation_eq_none_iff
  exists_value := by
    intro x hx
    match x with
    | some (.array items) => exact ⟨items, rfl⟩
    | none | some .null | some (.bool _) | some (.number _) | some (.string _)
    | some (.object _) => cases hx
  validate_of_kind_ne := by
    intro rs x p hx
    match x with
    | some (.array items) => exact absurd rfl hx
    | none | some .null | some (.bool _) | some (.number _) | some (.string _)
    | some (.object _) => rfl
  issues_value := by
    intro rs items p alone hr
    let c : Call := ⟨.array element rs, some (.array items), p⟩
    obtain ⟨w, hw, hi⟩ := Call.close_of_gathers (c := c) trivial (List.length_map alone)
    refine ⟨w, ?_, ?_⟩
    · change c.run.outcome = _
      rw [Call.run_eq rfl, Run.mapM_of_ok hr, Run.bind_of_ok rfl, hw]
      rfl
    · rw [hi, List.flatMap_map]
      exact List.append_nil _

end Ruled

/-- Schemas of strings, of numbers, and of arrays with any elements, each built by a chain of calls
that adds constraints and gives messages. The chain fails only with a malformed pattern. A value of
another kind, or none, meets one refusal and no constraint, with the last message before the first
constraint. A value of the kind meets one issue for each constraint that it breaks, in the order of
the chain, with the last message between the constraint and the next one or else the standard one.
To leave out a call that gives a message changes the message of one constraint, or of that refusal,
and nothing else. -/
theorem violations_attributed (element : Schema) :
    Ruled.string.AttributesAll ∧ Ruled.number.AttributesAll ∧
      (Ruled.array element).AttributesAll :=
  ⟨Ruled.string.attributesAll, Ruled.number.attributesAll, (Ruled.array element).attributesAll⟩

/-- Messages before all constraints, in a row, and after a call that adds two constraints. -/
def nickname : List StringStep :=
  [.error "a text", .error "a nickname is a text", .nonempty, .min 3, .error "too short",
    .error "three letters at least", .startsWith "A", .endsWith "b"]

def grade : List NumberStep :=
  [.range (.ofInt 1) (.ofInt 6), .error "at most six", .integer, .error "whole"]

theorem violations_attributed_nickname :
    (∃ rs, Ruled.string.build? nickname = some rs ∧
      rs.typeMessage = some "a nickname is a text" ∧
      rs.rules.map Rule.message = [none, some "three letters at least", none, none] ∧
      ∃ w, ((Schema.string rs).validate (some (.string "b")) []).outcome = .ok w ∧
        w.issues.map Issue.message =
          ["three letters at least", "Invalid input: must start with \"A\""]) ∧
    ∃ rs, Ruled.number.build? grade = some rs ∧
      rs.rules.map Rule.message = [none, some "at most six", some "whole"] := by
  obtain ⟨hstring, hnumber, _⟩ := violations_attributed .any
  refine ⟨?_, ?_⟩
  · obtain ⟨rs, hrs, h⟩ := (hstring nickname).2 _ rfl
    obtain rfl : _ = rs := Option.some.inj hrs
    obtain ⟨a, ha, hright⟩ := h.right_kind (some (.string "b")) [] rfl
    obtain ⟨w, own, hw, hi, _⟩ := hright (fun _ => .ok none) (List.forall_mem_nil _)
    refine ⟨_, hrs, h.records.typeMessage, rfl, w, hw, ?_⟩
    cases hw
    rfl
  · obtain ⟨rs, hrs, h⟩ := (hnumber grade).2 _ rfl
    obtain rfl : _ = rs := Option.some.inj hrs
    exact ⟨_, hrs, rfl⟩

end Schemata
