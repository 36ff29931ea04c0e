import Schemata.Issue

/-! # Observable runs

A run logs what it calls on the outside and then ends, with a result or with a fault. A fault ends
everything around it, until a guard turns it into its text. What is thrown may itself fault when it
is dropped: a guard drops what it has read, so it ends with that next fault and holds nothing back.
-/
namespace Schemata

/-- What can be read of what was thrown. Some faults carry no text. -/
inductive Fault
  | message (text : String)
  | wordless
deriving DecidableEq

def Fault.text : Fault → String
  | .message text => text
  | .wordless => "panic with non-string payload"

/-- What is thrown. Dropping a loud payload, which carries no text, throws another one, and dropping
an endless one throws one like it. -/
inductive Payload
  | quiet (f : Fault)
  | loud (next : Payload)
  | endless
deriving DecidableEq

namespace Payload

def fault : Payload → Fault
  | .quiet f => f
  | .loud _ | .endless => .wordless

/-- What dropping a payload throws. -/
def dropped? : Payload → Option Payload
  | .quiet _ => none
  | .loud next => some next
  | .endless => some .endless

instance : Coe Fault Payload := ⟨quiet⟩

instance : CoeOut Payload Fault := ⟨fault⟩

end Payload

inductive Event
  /-- A callback was run on a value. -/
  | called (name : String) (value : Value)
  /-- A watched schema was given an input, or an absent one, at a path. -/
  | visited (id : String) (path : Path) (input : Option Value)

structure Run (α : Type) where
  log : List Event
  outcome : Except Payload α

namespace Run
variable {α β : Type}

@[ext] theorem ext {x y : Run α} (hl : x.log = y.log) (ho : x.outcome = y.outcome) : x = y := by
  cases x; cases y; simp_all

def fault (p : Payload) : Run α := ⟨[], .error p⟩

def tell (e : Event) : Run Unit := ⟨[e], .ok ()⟩

instance : Monad Run where
  pure a := ⟨[], .ok a⟩
  bind x f := match x.outcome with
    | .ok a => ⟨x.log ++ (f a).log, (f a).outcome⟩
    | .error e => ⟨x.log, .error e⟩

/-- A fault becomes an ordinary result. Its payload is dropped once it has been read. -/
def guard (x : Run α) : Run (Except Fault α) :=
  match x.outcome with
  | .ok a => ⟨x.log, .ok (.ok a)⟩
  | .error p =>
    match p.dropped? with
    | none => ⟨x.log, .ok (.error p)⟩
    | some next => ⟨x.log, .error next⟩

@[simp] theorem log_pure (a : α) : (pure a : Run α).log = [] := rfl

@[simp] theorem outcome_pure (a : α) : (pure a : Run α).outcome = .ok a := rfl

theorem pure_inj {a b : α} : (pure a : Run α) = pure b ↔ a = b :=
  ⟨fun h => Except.ok.inj (congrArg outcome h), fun h => congrArg pure h⟩

theorem bind_of_ok {x : Run α} {f : α → Run β} {a : α} (h : x.outcome = .ok a) :
    x >>= f = ⟨x.log ++ (f a).log, (f a).outcome⟩ := by
  show (match x.outcome with
    | .ok a => (⟨x.log ++ (f a).log, (f a).outcome⟩ : Run β)
    | .error e => ⟨x.log, .error e⟩) = _
  rw [h]

theorem bind_of_error {x : Run α} {f : α → Run β} {e : Payload} (h : x.outcome = .error e) :
    x >>= f = ⟨x.log, .error e⟩ := by
  show (match x.outcome with
    | .ok a => (⟨x.log ++ (f a).log, (f a).outcome⟩ : Run β)
    | .error e => ⟨x.log, .error e⟩) = _
  rw [h]

theorem guard_of_ok {x : Run α} {a : α} (h : x.outcome = .ok a) :
    x.guard = ⟨x.log, .ok (.ok a)⟩ := by
  simp only [guard, h]

theorem guard_of_quiet {x : Run α} {f : Fault} (h : x.outcome = .error (.quiet f)) :
    x.guard = ⟨x.log, .ok (.error f)⟩ := by
  simp only [guard, h, Payload.dropped?, Payload.fault]

theorem guard_of_loud {x : Run α} {p next : Payload} (h : x.outcome = .error p)
    (hp : p.dropped? = some next) : x.guard = ⟨x.log, .error next⟩ := by
  simp only [guard, h, hp]

theorem pure_bind' (a : α) (f : α → Run β) : pure a >>= f = f a := by
  rw [bind_of_ok (outcome_pure a)]; simp

private theorem id_map' (x : Run α) : id <$> x = x := by
  show x >>= (fun a => pure (id a)) = x
  cases h : x.outcome with
  | ok a => rw [bind_of_ok h]; exact ext (by simp) (by simp [h])
  | error e => rw [bind_of_error h]; exact ext rfl (by simp [h])

private theorem bind_assoc' {γ : Type} (x : Run α) (f : α → Run β) (g : β → Run γ) :
    x >>= f >>= g = x >>= fun a => f a >>= g := by
  cases h : x.outcome with
  | error e => rw [bind_of_error h, bind_of_error h, bind_of_error rfl]
  | ok a =>
    rw [bind_of_ok h, bind_of_ok h]
    cases hf : (f a).outcome with
    | ok b => rw [bind_of_ok (a := b) rfl, bind_of_ok hf, List.append_assoc]
    | error e => rw [bind_of_error (e := e) rfl, bind_of_error hf]

instance : LawfulMonad Run := LawfulMonad.mk' Run id_map' pure_bind' bind_assoc'

end Run

/-- The end of a validation: a value or none, or a failure. -/
abbrev Verdict := Except Issues (Option Value)

namespace Verdict

def issues : Verdict → List Issue
  | .ok _ => []
  | .error is => is.toList

/-- The value of a success, if it has one. -/
def value? : Verdict → Option Value
  | .ok out => out
  | .error _ => none

/-- A value is accepted when nothing was found against it. -/
def conclude (value : Value) (issues : List Issue) : Verdict :=
  match Issues.ofList? issues with
  | none => .ok (some value)
  | some is => .error is

@[simp] theorem issues_ok (out : Option Value) : issues (.ok out) = [] := rfl

@[simp] theorem issues_error (is : Issues) : issues (.error is) = is.toList := rfl

theorem issues_eq_nil_iff {v : Verdict} : v.issues = [] ↔ ∃ out, v = .ok out := by
  cases v with
  | ok out => simp
  | error is => simp

theorem eq_ok_of_issues_eq_nil {v : Verdict} (h : v.issues = []) : v = .ok v.value? := by
  obtain ⟨out, rfl⟩ := issues_eq_nil_iff.mp h
  rfl

@[simp] theorem issues_conclude (value : Value) (is : List Issue) :
    (conclude value is).issues = is := by
  cases is with
  | nil => rfl
  | cons i is => rfl

theorem conclude_eq_ok_iff {value : Value} {is : List Issue} {out : Option Value} :
    conclude value is = .ok out ↔ is = [] ∧ out = some value := by
  cases is with
  | nil => simp [conclude, Issues.ofList?, eq_comm]
  | cons i is => simp [conclude, Issues.ofList?]

end Verdict
end Schemata
