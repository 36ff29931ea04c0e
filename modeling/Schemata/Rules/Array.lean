import Schemata.Rules

/-! # Array rules

Constraints on an array as a whole: how many elements it has, and that no element repeats an
earlier one. A repetition is reported by the positions of the later elements.
-/
namespace Schemata

inductive ArrayConstraint
  | min (least : Nat)
  | max (most : Nat)
  | length (exact : Nat)
  | unique

abbrev ArrayRules := Rules ArrayConstraint

/-- The positions of the elements that repeat one of `earlier` or one before them, counted from
`position`. -/
def repetitionsAfter (earlier : List Value) (position : Nat) : List Value → List Nat
  | [] => []
  | v :: vs =>
    let later := repetitionsAfter (earlier ++ [v]) (position + 1) vs
    if earlier.any (·.same v) then position :: later else later

def repetitions (items : List Value) : List Nat := repetitionsAfter [] 0 items

namespace ArrayConstraint

private def counted (code : IssueCode) (relation : String) (n found : Nat) : Violation :=
  ⟨code, s!"Array must contain {relation} {n} element(s)", some s!"{found} elements",
    some s!"{relation} {n} elements"⟩

def violation (items : List Value) : ArrayConstraint → Option Violation
  | .min n => if items.length < n then some (counted .tooSmall "at least" n items.length) else none
  | .max n => if n < items.length then some (counted .tooBig "at most" n items.length) else none
  | .length n =>
    if items.length < n then some (counted .tooSmall "exactly" n items.length)
    else if n < items.length then some (counted .tooBig "exactly" n items.length)
    else none
  | .unique =>
    match repetitions items with
    | [] => none
    | positions =>
      some ⟨.custom, "Array elements must be unique",
        some ("duplicates at indices [" ++ ", ".intercalate (positions.map toString) ++ "]"),
        some "unique elements"⟩

/-- Whether an array meets a constraint. -/
def holds (items : List Value) : ArrayConstraint → Bool
  | .min n => n ≤ items.length
  | .max n => items.length ≤ n
  | .length n => items.length == n
  | .unique => decide (items.Pairwise fun v w => v.same w = false)

theorem code_of_violation {items : List Value} {c : ArrayConstraint} {v : Violation}
    (h : c.violation items = some v) :
    v.code = .tooSmall ∨ v.code = .tooBig ∨ v.code = .custom := by
  cases c with
  | min n | max n =>
    simp only [violation] at h
    split at h
    · cases h; simp [counted]
    · cases h
  | length n =>
    simp only [violation] at h
    split at h
    · cases h; simp [counted]
    · split at h
      · cases h; simp [counted]
      · cases h
  | unique =>
    simp only [violation] at h
    split at h
    · cases h
    · cases h; simp

/-- All constraints but one look only at how many elements there are. -/
theorem violation_congr {items others : List Value} {c : ArrayConstraint} (hc : c ≠ .unique)
    (hl : items.length = others.length) : c.violation items = c.violation others := by
  cases c with
  | min n | max n | length n => simp only [violation, hl]
  | unique => exact absurd rfl hc

end ArrayConstraint

namespace ArrayRules

def min (rs : ArrayRules) (n : Nat) : ArrayRules := rs.add (.min n)
def max (rs : ArrayRules) (n : Nat) : ArrayRules := rs.add (.max n)
def length (rs : ArrayRules) (n : Nat) : ArrayRules := rs.add (.length n)
def nonempty (rs : ArrayRules) : ArrayRules := rs.min 1
def unique (rs : ArrayRules) : ArrayRules := rs.add .unique

/-- The verdict on an array from those on its elements. The array's own issues come first, and an
element accepted without a value becomes null. -/
def verdict (rs : ArrayRules) (items : List Value) (path : Path) (elements : List Verdict) :
    Verdict :=
  .conclude (.array (elements.map fun v => v.value?.getD .null))
    (rs.issues (·.violation items) path ++ elements.flatMap Verdict.issues)

end ArrayRules
end Schemata
