import Schemata.Proofs.Bounds
import Schemata.Proofs.Repetition

/-! # Sameness as an equality

Sameness is reflexive and symmetric, keeps values of different kinds apart, and sees nothing of the
order of entries. Numbers that are doubles, or integers that have a double of their own, are the
same just when they are one quantity, so among values of such numbers it is also transitive. An
integer that has no double of its own may be the same as the double of another integer.
-/
namespace Schemata

namespace Number
variable {x y : Number}

theorem value_eq_quanta (x : Number) : x.value = x.quanta / Binary64.unit := by
  have hunit : (Binary64.unit : ℚ) ≠ 0 := Int.cast_ne_zero.mpr Binary64.unit_ne_zero
  cases x with
  | int n => rw [value, quanta, Int.cast_mul, mul_div_cancel_right₀ _ hunit]
  | float x => rfl

theorem same_iff_value_eq (hx : x.Exact) (hy : y.Exact) : x.same y = true ↔ x.value = y.value := by
  have hunit : (Binary64.unit : ℚ) ≠ 0 := Int.cast_ne_zero.mpr Binary64.unit_ne_zero
  rw [same_iff_quanta_eq hx hy, value_eq_quanta, value_eq_quanta, div_left_inj' hunit, Int.cast_inj]

end Number

namespace Value

theorem kind_eq_of_same {v w : Value} (h : v.same w = true) :
    Kind.of (some v) = Kind.of (some w) := by
  cases v <;> cases w <;> first | rfl | cases h

/-- A value whose objects name no entry twice and whose integers all have doubles of their own. -/
def ExactValue : Type := { v : Value // v.Distinct ∧ v.EveryNumber Number.Exact }

theorem equivalence_same : Equivalence fun v w : ExactValue => v.1.same w.1 = true where
  refl v := same_self v.2.1
  symm {v w} h := same_symm v.2.1 w.2.1 h
  trans {u v w} huv hvw := same_trans u.2 v.2 w.2 huv hvw

/-- What sameness has of an equality of values. -/
structure SamenessLaws : Prop where
  refl : ∀ v : Value, v.Distinct → v.same v = true
  symm : ∀ v w : Value, v.Distinct → w.Distinct → v.same w = w.same v
  kinds : ∀ v w : Value, v.same w = true → Kind.of (some v) = Kind.of (some w)
  reordered : ∀ v v' w w' : Value, w.Distinct → Reordered v v' → Reordered w w' →
    v'.same w' = v.same w
  equivalence : Equivalence fun v w : ExactValue => v.1.same w.1 = true
  quantities : ∀ x y : Number, x.Exact → y.Exact →
    ((Value.number x).same (.number y) = true ↔ x.value = y.value)

/-- Where no object names an entry twice, sameness is reflexive and symmetric, and it never relates
values of two kinds. Another order of entries, at whatever depth and on either side, changes
nothing. Among values whose integers all have doubles of their own it is an equivalence, which
relates two numbers just when they are one quantity. -/
theorem sameness_laws : SamenessLaws where
  refl v hv := same_self hv
  symm v w hv hw := by
    rw [Bool.eq_iff_iff]
    exact ⟨same_symm hv hw, same_symm hw hv⟩
  kinds v w := kind_eq_of_same
  reordered v v' w w' hw hv hw' := (same_reordered hv hw' hw).symm
  equivalence := equivalence_same
  quantities x y hx hy := Number.same_iff_value_eq hx hy

/-- A point, and the same point with its number as a double and its entries turned. -/
theorem sameness_laws_point :
    let point : Value := .object [("x", .int 1), ("y", .array [.null])]
    let turned : Value := .object [("y", .array [.null]), ("x", .int 1)]
    let double : Value := .object [("y", .array [.null]), ("x", .number (.float .one))]
    Reordered point turned ∧ point.same double = true ∧ double.same point = true ∧
      turned.same double = true ∧ Number.value (.int 1) = Number.value (.float .one) := by
  intro point turned double
  have h := sameness_laws
  have hpoint : point.Distinct := distinct_points point (by simp [points, point])
  have hdouble : double.Distinct := distinct_points double (by simp [points, double])
  have hturned : Reordered point turned := .object_of_perm (.swap _ _ _)
  have hsame : point.same double = true := by decide +kernel
  refine ⟨hturned, hsame, ?_, ?_, ?_⟩
  · rw [h.symm double point hdouble hpoint, hsame]
  · rw [h.reordered point turned double double hdouble hturned (.refl double), hsame]
  · exact (h.quantities (.int 1) (.float .one) (by decide : (1 : Int).natAbs ≤ 1 <<< 53)
      trivial).mp (by decide +kernel)

end Value
end Schemata
