import Schemata.Proofs.Acceptance
import Schemata.Proofs.Rounding
import Schemata.Value.Reader

/-! # Numbers against exact arithmetic

Number rules compare doubles, and an integer is rounded to one before it is compared. As rounding
keeps the order, a bound never rejects an integer that meets it, and it accepts one that does not
only where both have one double. Rounding also keeps signs, and doubles are whole numbers of quanta,
so the rules about signs and about integers are exact.
-/
namespace Schemata

namespace Number

def value : Number → ℚ
  | .int n => n
  | .float x => x.value

/-- An integer that a word holds, or a double. -/
def Fits : Number → Prop
  | .int n => Value.integerFits n = true
  | .float _ => True

end Number

theorem integerFits_iff {n : Int} :
    Value.integerFits n = true ↔ -(2 ^ 63) ≤ n ∧ n < 2 ^ 64 := by
  simp only [Value.integerFits, IntRange.contains, IntRange.signed, IntRange.unsigned,
    Bool.or_eq_true, Bool.and_eq_true, decide_eq_true_eq, Nat.one_shiftLeft]
  omega

theorem natAbs_le_of_integerFits {n : Int} (h : Value.integerFits n = true) :
    n.natAbs ≤ 1 <<< 64 := by
  have hwords := integerFits_iff.mp h
  omega

theorem integerFits_of_natAbs_le {n : Int} (h : n.natAbs ≤ 2 ^ 53) :
    Value.integerFits n = true :=
  integerFits_iff.mpr (by omega)

/-! ## Doubles -/

namespace Binary64

theorem value_neg_iff (x : Binary64) : x.value < 0 ↔ x.quanta < 0 := by
  rw [value, div_lt_iff₀ (Int.cast_pos.mpr unit_pos), zero_mul, Int.cast_lt_zero]

theorem value_pos_iff (x : Binary64) : 0 < x.value ↔ 0 < x.quanta := by
  rw [value, div_pos_iff_of_pos_right (Int.cast_pos.mpr unit_pos), Int.cast_pos]

theorem isInteger_iff (x : Binary64) : x.isInteger = true ↔ ∃ k : Int, x.value = k := by
  have hne : (unit : ℚ) ≠ 0 := Int.cast_ne_zero.mpr unit_pos.ne'
  have hwhole (k : Int) : x.value = k ↔ x.quanta = k * unit := by
    rw [value, div_eq_iff hne, ← Int.cast_mul, Int.cast_inj]
  rw [isInteger, beq_iff_eq, ← Int.dvd_iff_emod_eq_zero]
  simp only [hwhole, dvd_def, Int.mul_comm unit]

end Binary64

namespace Extended
variable {n m : Int}

/-- The order of the doubles of two integers is that of the integers, unless the doubles are one. -/
theorem less_ofInt (hn : Value.integerFits n = true) (hm : Value.integerFits m = true) :
    (ofInt n).less (ofInt m) = true ↔ n < m ∧ ofInt n ≠ ofInt m := by
  obtain ⟨x, hx⟩ := exists_ofInt (natAbs_le_of_integerFits hn)
  obtain ⟨y, hy⟩ := exists_ofInt (natAbs_le_of_integerFits hm)
  have hless : (ofInt n).less (ofInt m) = true ↔ x.quanta < y.quanta := by
    rw [hx, hy]
    exact decide_eq_true_iff
  have heq : ofInt n = ofInt m ↔ x.quanta = y.quanta := by
    refine ⟨fun h => ?_, ofInt_eq_of_quanta_eq hx hy⟩
    rw [hx, hy, finite.injEq] at h
    rw [h]
  rw [hless, Ne, heq]
  constructor
  · intro h
    refine ⟨lt_of_not_ge fun hle => ?_, h.ne⟩
    exact absurd (quanta_ofInt_mono hle hy hx) h.not_ge
  · rintro ⟨hlt, hne⟩
    exact lt_of_le_of_ne (quanta_ofInt_mono hlt.le hx hy) hne

theorem not_less_ofInt (hn : Value.integerFits n = true) (hm : Value.integerFits m = true) :
    (!(ofInt n).less (ofInt m)) = true ↔ m ≤ n ∨ ofInt n = ofInt m := by
  rw [Bool.not_eq_true', ← Bool.not_eq_true, less_ofInt hn hm, not_and_or, not_lt, not_ne_iff]

theorem ofInt_injOn (hn : n.natAbs ≤ 2 ^ 53) (hm : m.natAbs ≤ 2 ^ 53) (h : ofInt n = ofInt m) :
    n = m := by
  obtain ⟨x, hx, hxq⟩ := ofInt_of_natAbs_le hn
  obtain ⟨y, hy, hyq⟩ := ofInt_of_natAbs_le hm
  rw [hx, hy, finite.injEq] at h
  rw [h, hyq] at hxq
  exact (Int.mul_eq_mul_right_iff Binary64.unit_pos.ne').mp hxq.symm

end Extended

namespace Number
variable {x : Number}

theorem exists_toDouble (h : x.Fits) : ∃ d, x.toDouble = .finite d ∧
    (d.quanta < 0 ↔ x.value < 0) ∧ (0 < d.quanta ↔ 0 < x.value) := by
  cases x with
  | int n =>
    obtain ⟨d, hd⟩ := Extended.exists_ofInt (natAbs_le_of_integerFits h)
    refine ⟨d, hd, ?_, ?_⟩
    · rw [Extended.quanta_ofInt_neg_iff hd]
      exact Int.cast_lt_zero.symm
    · rw [Extended.quanta_ofInt_pos_iff hd]
      exact Int.cast_pos.symm
  | float d => exact ⟨d, rfl, d.value_neg_iff.symm, d.value_pos_iff.symm⟩

theorem less_zero_iff (h : x.Fits) : x.toDouble.less .zero = true ↔ x.value < 0 := by
  obtain ⟨d, hd, hneg, _⟩ := exists_toDouble h
  rw [hd, ← hneg]
  exact decide_eq_true_iff

theorem zero_less_iff (h : x.Fits) : Extended.zero.less x.toDouble = true ↔ 0 < x.value := by
  obtain ⟨d, hd, _, hpos⟩ := exists_toDouble h
  rw [hd, ← hpos]
  exact decide_eq_true_iff

theorem same_zero_iff (h : x.Fits) : x.toDouble.same .zero = true ↔ x.value = 0 := by
  obtain ⟨d, hd, hneg, hpos⟩ := exists_toDouble h
  have hzero : d.quanta = 0 ↔ x.value = 0 := by
    rw [Int.le_antisymm_iff, le_antisymm_iff, ← not_lt, ← not_lt, hneg, hpos, not_lt, not_lt]
  rw [hd, ← hzero]
  exact beq_iff_eq

end Number

/-! ## Rules -/

namespace NumberRules

/-- The numbers of a set pass, and the others are refused. -/
def Selects (rs : NumberRules) (set : Number → Prop) : Prop :=
  ∀ x, x.Fits → (Schema.number rs).PassesIff (.number x) (set x)

theorem selects_of_holds_iff {c : NumberConstraint} {set : Number → Prop}
    (h : ∀ x : Number, x.Fits → (c.holds x = true ↔ set x)) : Selects (Rules.none.add c) set :=
  fun x hx => (Schema.passesIff_number_add c x).congr (h x hx)

/-- Rules of one bound, on the integers that words hold. They pass those that meet the bound and
those whose double is the one of the bound, and where all integers are doubles just those that meet
it. -/
structure BoundsIntegers (rules : Int → NumberRules) (meets : Int → Int → Prop) : Prop where
  rounded : ∀ n b, Value.integerFits n = true → Value.integerFits b = true →
    (Schema.number (rules b)).PassesIff (.int n) (meets n b ∨ Extended.ofInt n = Extended.ofInt b)
  exact : ∀ n b, n.natAbs ≤ 2 ^ 53 → b.natAbs ≤ 2 ^ 53 →
    (Schema.number (rules b)).PassesIff (.int n) (meets n b)

theorem boundsIntegers_of_holds_iff {c : Int → NumberConstraint} {meets : Int → Int → Prop}
    (h : ∀ n b, Value.integerFits n = true → Value.integerFits b = true →
      ((c b).holds (.int n) = true ↔ meets n b ∨ Extended.ofInt n = Extended.ofInt b))
    (hself : ∀ n, meets n n) : BoundsIntegers (fun b => Rules.none.add (c b)) meets where
  rounded n b hn hb := (Schema.passesIff_number_add _ _).congr (h n b hn hb)
  exact n b hn hb := by
    have hiff := h n b (integerFits_of_natAbs_le hn) (integerFits_of_natAbs_le hb)
    refine (Schema.passesIff_number_add _ _).congr (hiff.trans (or_iff_left_of_imp fun heq => ?_))
    exact Extended.ofInt_injOn hn hb heq ▸ hself n

end NumberRules

/-- What number rules say of numbers as exact quantities. -/
structure NumberRulesExact : Prop where
  converted : ∀ n, Value.integerFits n = true → ∃ x, Extended.ofInt n = .finite x ∧ x.Nearest n
  min : NumberRules.BoundsIntegers (fun b => NumberRules.min .none (.ofInt b)) fun n b => b ≤ n
  max : NumberRules.BoundsIntegers (fun b => NumberRules.max .none (.ofInt b)) fun n b => n ≤ b
  positive : NumberRules.Selects (.positive .none) fun x => 0 < x.value
  negative : NumberRules.Selects (.negative .none) fun x => x.value < 0
  nonnegative : NumberRules.Selects (.nonnegative .none) fun x => 0 ≤ x.value
  nonpositive : NumberRules.Selects (.nonpositive .none) fun x => x.value ≤ 0
  integer : NumberRules.Selects (.integer .none) fun x => ∃ k : Int, x.value = k
  answers : ∀ (rs : NumberRules) (x : Number),
    (Schema.number rs).Passes (.number x) ∨ (Schema.number rs).Rejects (.number x)

/-- An integer that a word holds is rounded to its nearest double, an even one if two are as near. A
lower or upper bound then accepts every integer that meets it, and one that does not just where both
have the same double, so never where both are at most `2 ^ 53` in magnitude. The signs of numbers
and being an integer, of whatever magnitude, are decided exactly. Whatever the rules are, a number
is given back as it is or refused. -/
theorem number_rules_exact : NumberRulesExact where
  converted := by
    intro n hn
    obtain ⟨x, hx⟩ := Extended.exists_ofInt (natAbs_le_of_integerFits hn)
    exact ⟨x, hx, Extended.nearest_of_ofInt hx⟩
  min := by
    refine NumberRules.boundsIntegers_of_holds_iff (c := fun b => .min (.ofInt b)) ?_ Int.le_refl
    exact fun n b hn hb => Extended.not_less_ofInt hn hb
  max := by
    refine NumberRules.boundsIntegers_of_holds_iff (c := fun b => .max (.ofInt b)) ?_ Int.le_refl
    exact fun n b hn hb => (Extended.not_less_ofInt hb hn).trans (or_congr_right eq_comm)
  positive := by
    refine NumberRules.selects_of_holds_iff fun x hx => ?_
    rw [NumberConstraint.holds, Bool.and_eq_true, Bool.not_eq_true', Bool.not_eq_true',
      ← Bool.not_eq_true, ← Bool.not_eq_true, Number.less_zero_iff hx, Number.same_zero_iff hx,
      not_lt, lt_iff_le_and_ne, ne_comm]
  negative := by
    refine NumberRules.selects_of_holds_iff fun x hx => ?_
    rw [NumberConstraint.holds, Bool.and_eq_true, Bool.not_eq_true', Bool.not_eq_true',
      ← Bool.not_eq_true, ← Bool.not_eq_true, Number.zero_less_iff hx, Number.same_zero_iff hx,
      not_lt, lt_iff_le_and_ne]
  nonnegative := by
    refine NumberRules.selects_of_holds_iff fun x hx => ?_
    rw [NumberConstraint.holds, Bool.not_eq_true', ← Bool.not_eq_true, Number.less_zero_iff hx,
      not_lt]
  nonpositive := by
    refine NumberRules.selects_of_holds_iff fun x hx => ?_
    rw [NumberConstraint.holds, Bool.not_eq_true', ← Bool.not_eq_true, Number.zero_less_iff hx,
      not_lt]
  integer := by
    refine NumberRules.selects_of_holds_iff fun x _ => ?_
    cases x with
    | int n => exact ⟨fun _ => ⟨n, rfl⟩, fun _ => rfl⟩
    | float d => exact d.isInteger_iff
  answers rs x := (Schema.passesIff_number rs x).passes_or_rejects

/-- Beside the ends of the integers that are all doubles, of signed words and of unsigned words, and
at the zero with a sign. -/
theorem number_rules_exact_edges :
    (Schema.number (.min .none (.ofInt (2 ^ 53 + 1)))).Passes (.int (2 ^ 53)) ∧
      (Schema.number (.min .none (.ofInt (2 ^ 63 - 1)))).Passes (.int (2 ^ 63 - 512)) ∧
      (Schema.number (.min .none (.ofInt (2 ^ 63 - 1)))).Rejects (.int (2 ^ 63 - 513)) ∧
      (Schema.number (.max .none (.ofInt (2 ^ 64 - 1024)))).Passes (.int (2 ^ 64 - 1)) ∧
      (Schema.number (.max .none (.ofInt (2 ^ 64 - 1025)))).Rejects (.int (2 ^ 64 - 1)) ∧
      (Schema.number (.integer .none)).Passes (.number (.float (.zero true))) ∧
      (Schema.number (.positive .none)).Rejects (.number (.float (.zero true))) := by
  have h := number_rules_exact
  have hmin n b hn hb := h.min.rounded n b hn hb
  have hmax n b hn hb := h.max.rounded n b hn hb
  have hzero : (Number.float (.zero true)).value = 0 := zero_div _
  refine ⟨?_, ?_, ?_, ?_, ?_, ?_, ?_⟩
  · exact (hmin _ _ (by decide) (by decide)).passes (by decide +kernel)
  · exact (hmin _ _ (by decide) (by decide)).passes (by decide +kernel)
  · exact (hmin _ _ (by decide) (by decide)).rejects (by decide +kernel)
  · exact (hmax _ _ (by decide) (by decide)).passes (by decide +kernel)
  · exact (hmax _ _ (by decide) (by decide)).rejects (by decide +kernel)
  · exact (h.integer (.float (.zero true)) trivial).passes ⟨0, hzero.trans Int.cast_zero.symm⟩
  · exact (h.positive (.float (.zero true)) trivial).rejects hzero.le.not_gt

end Schemata
