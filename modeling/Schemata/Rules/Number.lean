import Schemata.Rules

/-! # Number rules

Bounds are doubles, and a number is compared through its nearest double; the value that is not a
number bounds nothing. Descriptors write doubles without an exponent.
-/
namespace Schemata

inductive NumberConstraint
  | integer
  | min (bound : Extended)
  | max (bound : Extended)
  | positive
  | negative
  | nonnegative
  | nonpositive

abbrev NumberRules := Rules NumberConstraint

namespace NumberConstraint

private def tooSmall (n : Extended) (relation bound : String) : Violation :=
  ⟨.tooSmall, "Number must be greater than " ++ relation ++ bound, some n.plain, none⟩

private def tooBig (n : Extended) (relation bound : String) : Violation :=
  ⟨.tooBig, "Number must be less than " ++ relation ++ bound, some n.plain, none⟩

def orEqual : String := "or equal to "

def violation (n : Number) : NumberConstraint → Option Violation
  | .integer =>
    if n.isInteger then none
    else some ⟨.invalidType, "Expected integer, received float", some "float", some "integer"⟩
  | .min bound =>
    if n.toDouble.less bound then
      some { tooSmall n.toDouble orEqual bound.plain with expected := some (">= " ++ bound.plain) }
    else none
  | .max bound =>
    if bound.less n.toDouble then
      some { tooBig n.toDouble orEqual bound.plain with expected := some ("<= " ++ bound.plain) }
    else none
  | .positive =>
    if n.toDouble.less .zero || n.toDouble.same .zero then
      some { tooSmall n.toDouble "" "0" with expected := some "> 0" }
    else none
  | .nonnegative =>
    if n.toDouble.less .zero then
      some { tooSmall n.toDouble orEqual "0" with expected := some ">= 0" }
    else none
  | .negative =>
    if Extended.zero.less n.toDouble || n.toDouble.same .zero then
      some { tooBig n.toDouble "" "0" with expected := some "< 0" }
    else none
  | .nonpositive =>
    if Extended.zero.less n.toDouble then
      some { tooBig n.toDouble orEqual "0" with expected := some "<= 0" }
    else none

/-- Whether a number meets a constraint. -/
def holds (n : Number) : NumberConstraint → Bool
  | .integer => n.isInteger
  | .min bound => !n.toDouble.less bound
  | .max bound => !bound.less n.toDouble
  | .positive => !n.toDouble.less .zero && !n.toDouble.same .zero
  | .negative => !Extended.zero.less n.toDouble && !n.toDouble.same .zero
  | .nonnegative => !n.toDouble.less .zero
  | .nonpositive => !Extended.zero.less n.toDouble

theorem violation_eq_none_iff (n : Number) (c : NumberConstraint) :
    c.violation n = none ↔ c.holds n = true := by
  cases c <;> simp [violation, holds]

/-- Only the integer constraint speaks of types, and it says so in what it expects. -/
theorem code_of_violation {n : Number} {c : NumberConstraint} {v : Violation}
    (h : c.violation n = some v) :
    v.code = .tooSmall ∨ v.code = .tooBig ∨
      v.code = .invalidType ∧ v.expected = some "integer" := by
  cases c with
  | integer =>
    simp only [violation] at h
    split at h
    · cases h
    · cases h; simp
  | min bound | max bound | positive | nonnegative | negative | nonpositive =>
    simp only [violation] at h
    split at h
    · cases h; simp [tooSmall, tooBig]
    · cases h

end NumberConstraint

namespace NumberRules

def integer (rs : NumberRules) : NumberRules := rs.add .integer
def min (rs : NumberRules) (bound : Extended) : NumberRules := rs.add (.min bound)
def max (rs : NumberRules) (bound : Extended) : NumberRules := rs.add (.max bound)
def range (rs : NumberRules) (low high : Extended) : NumberRules := (rs.min low).max high
def positive (rs : NumberRules) : NumberRules := rs.add .positive
def negative (rs : NumberRules) : NumberRules := rs.add .negative
def nonnegative (rs : NumberRules) : NumberRules := rs.add .nonnegative
def nonpositive (rs : NumberRules) : NumberRules := rs.add .nonpositive

def verdict (rs : NumberRules) (input : Option Value) (path : Path) : Verdict :=
  match input with
  | some (.number n) => .conclude (.number n) (rs.issues (·.violation n) path)
  | _ => .error (.single (invalidType "number" rs.typeMessage input path))

end NumberRules
end Schemata
