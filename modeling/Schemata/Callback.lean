import Schemata.Run

/-! # Callbacks

A callback is a named pure function that accepts a value with an answer, rejects it with a message,
or faults. Running one is logged, and its fault counts as a rejection with the text of the fault,
unless the fault is loud.
-/
namespace Schemata

inductive Response (α : Type)
  | accept (answer : α)
  | reject (message : String)
  | fault (p : Payload)

structure Callback (α : Type) where
  name : String
  run : Value → Response α

/-- A check answers nothing. -/
abbrev Check := Callback Unit

/-- A mapper answers another value. -/
abbrev Mapper := Callback Value

namespace Response
variable {α : Type}

/-- A response as the end of a run that nothing guards. -/
def toRun : Response α → Run (Except String α)
  | .accept a => pure (.ok a)
  | .reject message => pure (.error message)
  | .fault p => Run.fault p

/-- What comes of a response under guard. -/
def settle : Response α → Except Payload (Except String α)
  | .accept a => .ok (.ok a)
  | .reject message => .ok (.error message)
  | .fault (.quiet f) => .ok (.error f.text)
  | .fault (.loud next) => .error next
  | .fault .endless => .error .endless

/-- What the payload of a response throws when it is dropped. -/
def burst? : Response α → Option Payload
  | .fault p => p.dropped?
  | _ => none

theorem settle_eq_accept_iff {r : Response α} {a : α} : r.settle = .ok (.ok a) ↔ r = .accept a := by
  match r with
  | .accept b => simp [settle]
  | .reject _ | .fault (.quiet _) | .fault (.loud _) | .fault .endless => simp [settle]

theorem settle_eq_error_iff {r : Response α} {p : Payload} :
    r.settle = .error p ↔ r.burst? = some p := by
  match r with
  | .accept _ | .reject _ | .fault (.quiet _) | .fault (.loud _) | .fault .endless =>
    simp [settle, burst?, Payload.dropped?]

end Response

namespace Callback
variable {α : Type}

/-- Run a callback under guard. -/
def invoke (c : Callback α) (v : Value) : Run (Except String α) := do
  Run.tell (.called c.name v)
  match ← (c.run v).toRun.guard with
  | .ok answer => pure answer
  | .error f => pure (.error f.text)

/-- Run a callback on an accepted value. A rejection is one issue at the path; nothing runs on a
failure or on an absent value. -/
def after (c : Callback α) (path : Path) (next : Value → α → Value) : Verdict → Run Verdict
  | .ok (some v) => do
    match ← c.invoke v with
    | .ok a => pure (.ok (some (next v a)))
    | .error message => pure (.error (.single (.custom path message)))
  | verdict => pure verdict

/-- The verdict on what a callback answers or rejects. -/
def verdict (path : Path) (next : Value → α → Value) (v : Value) : Except String α → Verdict
  | .ok a => .ok (some (next v a))
  | .error message => .error (.single (.custom path message))

/-- What a callback makes of an accepted value. -/
def respond (c : Callback α) (path : Path) (next : Value → α → Value) (v : Value) :
    Except Payload Verdict :=
  (c.run v).settle.map (verdict path next v)

variable {c : Callback α} {path : Path} {next : Value → α → Value} {v : Verdict} {value : Value}

theorem invoke_eq (c : Callback α) (v : Value) :
    c.invoke v = ⟨[.called c.name v], (c.run v).settle⟩ := by
  match h : c.run v with
  | .accept _ | .reject _ | .fault (.quiet _) | .fault (.loud _) | .fault .endless =>
    simp only [invoke, h]
    rfl

@[simp] theorem after_none (c : Callback α) (path : Path) (next : Value → α → Value) :
    c.after path next (.ok none) = pure (.ok none) := rfl

@[simp] theorem after_error (c : Callback α) (path : Path) (next : Value → α → Value)
    (is : Issues) : c.after path next (.error is) = pure (.error is) := rfl

theorem after_some (c : Callback α) (path : Path) (next : Value → α → Value) (v : Value) :
    c.after path next (.ok (some v)) = ⟨[.called c.name v], c.respond path next v⟩ := by
  have hi := invoke_eq c v
  cases h : (c.run v).settle with
  | ok answer =>
    have ho : (c.invoke v).outcome = .ok answer := by rw [hi, h]
    rw [after, Run.bind_of_ok ho, hi, respond, h]
    cases answer <;> rfl
  | error p =>
    have ho : (c.invoke v).outcome = .error p := by rw [hi, h]
    rw [after, Run.bind_of_error ho, hi, respond, h]
    rfl

theorem respond_eq_error_iff {p : Payload} :
    c.respond path next value = .error p ↔ (c.run value).burst? = some p := by
  rw [← Response.settle_eq_error_iff, respond]
  cases (c.run value).settle <;> simp [Except.map]

/-- A callback lets a verdict pass, or makes one of the value that it accepts. -/
theorem after_eq_ok {w : Verdict} (h : (c.after path next v).outcome = .ok w) :
    w = v ∨ ∃ value, v = .ok (some value) ∧ c.respond path next value = .ok w := by
  match v with
  | .ok none => exact .inl (Except.ok.inj h).symm
  | .error is => exact .inl (Except.ok.inj h).symm
  | .ok (some value) =>
    rw [after_some] at h
    exact .inr ⟨value, rfl, h⟩

/-- What is left of a callback's fault when its payload is dropped. -/
theorem after_eq_error_iff {p : Payload} : (c.after path next v).outcome = .error p ↔
    ∃ value, v = .ok (some value) ∧ (c.run value).burst? = some p := by
  match v with
  | .ok none => simp
  | .error is => simp
  | .ok (some value) => simp [after_some, respond_eq_error_iff]

theorem after_ok_iff {out : Option Value} : (c.after path next v).outcome = .ok (.ok out) ↔
      v = .ok none ∧ out = none ∨
      ∃ value a, v = .ok (some value) ∧ c.run value = .accept a ∧ out = some (next value a) := by
  match v with
  | .ok none => simp [eq_comm]
  | .error is => simp
  | .ok (some value) =>
    simp only [after_some, respond, ← Response.settle_eq_accept_iff]
    cases h : (c.run value).settle with
    | error p => simp [Except.map, h]
    | ok answer =>
      cases answer with
      | ok a => simp [Except.map, verdict, h, eq_comm]
      | error message => simp [Except.map, verdict, h]

end Callback

/-- A predicate with a fixed message for the values that it does not hold of. -/
def Check.ofPredicate (name : String) (holds : Value → Response Bool) (message : String) :
    Check where
  name := name
  run v := match holds v with
    | .accept true => .accept ()
    | .accept false => .reject message
    | .reject message => .reject message
    | .fault p => .fault p

end Schemata
