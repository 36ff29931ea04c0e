import Mathlib.Logic.Basic
import Schemata.Schema

/-! # What rules let pass

A value passes a schema when the schema gives just that value back, wherever it stands, and it is
refused when the schema finds issues, again wherever it stands. Strings and numbers pass a schema of
rules when every constraint of the rules holds of them, and are refused otherwise.
-/
namespace Schemata.Schema
variable {s : Schema} {v : Value} {P Q : Prop}

/-- The value is given back as it is. -/
def Passes (s : Schema) (v : Value) : Prop := ∀ p, s.validate (some v) p = pure (.ok (some v))

def Rejects (s : Schema) (v : Value) : Prop :=
  ∀ p, ∃ is, s.validate (some v) p = pure (.error is)

/-- The value passes if a statement holds, and is refused otherwise. -/
structure PassesIff (s : Schema) (v : Value) (P : Prop) : Prop where
  passes : P → s.Passes v
  rejects : ¬ P → s.Rejects v

theorem not_passes_of_rejects (h : s.Rejects v) : ¬ s.Passes v := by
  intro ha
  obtain ⟨is, hr⟩ := h []
  rw [ha []] at hr
  cases hr

namespace PassesIff

theorem passes_iff (h : s.PassesIff v P) : s.Passes v ↔ P :=
  ⟨fun hp => by_contra fun hn => not_passes_of_rejects (h.rejects hn) hp, h.passes⟩

theorem congr (h : s.PassesIff v P) (hpq : P ↔ Q) : s.PassesIff v Q :=
  ⟨fun hq => h.passes (hpq.mpr hq), fun hq => h.rejects (hpq.not.mpr hq)⟩

theorem passes_or_rejects (h : s.PassesIff v P) : s.Passes v ∨ s.Rejects v :=
  (Classical.em P).imp h.passes h.rejects

end PassesIff

theorem passesIff_of_conclude {κ : Type} {rs : Rules κ} (violation : κ → Option Violation)
    (h : ∀ p, s.validate (some v) p = pure (.conclude v (rs.issues violation p))) :
    s.PassesIff v (∀ r ∈ rs.rules, violation r.constraint = none) where
  passes hn p := by
    rw [h p, Rules.issues_eq_nil_iff.mpr hn]
    rfl
  rejects hn p := by
    rw [h p]
    cases hi : rs.issues violation p with
    | nil => exact absurd (Rules.issues_eq_nil_iff.mp hi) hn
    | cons i is => exact ⟨_, rfl⟩

theorem passesIff_string (rs : StringRules) (str : String) : (Schema.string rs).PassesIff
    (.string str) (∀ r ∈ rs.rules, r.constraint.holds str = true) := by
  refine (passesIff_of_conclude (StringConstraint.violation str) fun p => rfl).congr ?_
  simp only [StringConstraint.violation_eq_none_iff]

theorem passesIff_number (rs : NumberRules) (n : Number) : (Schema.number rs).PassesIff
    (.number n) (∀ r ∈ rs.rules, r.constraint.holds n = true) := by
  refine (passesIff_of_conclude (NumberConstraint.violation n) fun p => rfl).congr ?_
  simp only [NumberConstraint.violation_eq_none_iff]

theorem passesIff_string_add (c : StringConstraint) (str : String) :
    (Schema.string (Rules.none.add c)).PassesIff (.string str) (c.holds str = true) :=
  (passesIff_string _ str).congr (by simp [Rules.none, Rules.add])

theorem passesIff_number_add (c : NumberConstraint) (n : Number) :
    (Schema.number (Rules.none.add c)).PassesIff (.number n) (c.holds n = true) :=
  (passesIff_number _ n).congr (by simp [Rules.none, Rules.add])

end Schemata.Schema
