import Schemata.Run

/-! # Rules of one kind of value

A schema for one kind of value holds constraints in the order in which they were added. Each may
have a message of its own, and so may the refusal of a value of another kind. A message is given to
the constraint added last before it.
-/
namespace Schemata

/-- What a constraint reports, with its default message. -/
structure Violation where
  code : IssueCode
  message : String
  received : Option String
  expected : Option String

structure Rule (κ : Type) where
  constraint : κ
  message : Option String

structure Rules (κ : Type) where
  typeMessage : Option String
  rules : List (Rule κ)

def Violation.issue (v : Violation) (path : Path) (message : Option String) : Issue :=
  ⟨path, message.getD v.message, v.code, v.received, v.expected⟩

namespace Rules
variable {κ : Type}

def none : Rules κ := ⟨.none, []⟩

def add (rs : Rules κ) (constraint : κ) : Rules κ :=
  { rs with rules := rs.rules ++ [⟨constraint, .none⟩] }

/-- Before any constraint, the message is that of the wrong kind. -/
def error (rs : Rules κ) (message : String) : Rules κ :=
  match rs.rules.getLast? with
  | .none => { rs with typeMessage := some message }
  | some last => { rs with rules := rs.rules.dropLast ++ [{ last with message := some message }] }

/-- The issues of the violated constraints, in order. -/
def issues (rs : Rules κ) (violation : κ → Option Violation) (path : Path) : List Issue :=
  rs.rules.filterMap fun r => (violation r.constraint).map fun v => v.issue path r.message

theorem mem_issues_iff {rs : Rules κ} {violation : κ → Option Violation} {path : Path} {i : Issue} :
    i ∈ rs.issues violation path ↔
      ∃ r ∈ rs.rules, ∃ v, violation r.constraint = some v ∧ v.issue path r.message = i := by
  simp [issues]

theorem issues_eq_nil_iff {rs : Rules κ} {violation : κ → Option Violation} {path : Path} :
    rs.issues violation path = [] ↔ ∀ r ∈ rs.rules, violation r.constraint = Option.none := by
  simp [issues]

end Rules

/-- An input of the wrong kind, or an absent one where a value is required. -/
def invalidType (expected : String) (message : Option String) (input : Option Value) (path : Path) :
    Issue :=
  let received := Kind.of input
  let standard :=
    if received = .undefined then "Required"
    else "Expected " ++ expected ++ ", received " ++ received.name
  ⟨path, message.getD standard, .invalidType, some received.name, some expected⟩

end Schemata
