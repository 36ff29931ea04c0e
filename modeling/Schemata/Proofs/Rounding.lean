import Mathlib.Algebra.Order.Field.Basic
import Mathlib.Algebra.Order.Field.Rat
import Mathlib.Data.Nat.Dist
import Mathlib.Data.Rat.Cast.Order
import Schemata.Number.Binary64

/-! # The nearest double

Rounding comes to a magnitude that no other one is nearer than, and of two that are equally near to
one with an even significand. The magnitudes of the scale that it finds are the multiples of a step,
and division finds the nearest of those. A magnitude of a smaller scale is below the least full
significand, which is itself such a multiple and not above the ratio, so it is farther away. An
integer is rounded by its magnitude, which keeps the order of integers and their signs.
-/
namespace Schemata

/-! ## Ratios -/

section Multiple
variable {num den : Nat}

theorem nearestEven_cases (num den : Nat) :
    nearestEven num den = num / den ∧
        (2 * (num % den) < den ∨ 2 * (num % den) = den ∧ num / den % 2 = 0) ∨
      nearestEven num den = num / den + 1 ∧
        (den < 2 * (num % den) ∨ 2 * (num % den) = den ∧ num / den % 2 = 1) := by
  simp only [nearestEven]
  split
  · omega
  · split <;> omega

/-- A multiple is one of two neighbours, or lies at least a step beyond them. -/
theorem mul_cases (k floor den : Nat) :
    k * den + den ≤ floor * den ∨ k = floor ∨ k = floor + 1 ∨ floor * den + 2 * den ≤ k * den := by
  rcases Nat.lt_or_ge k floor with hlt | hge
  · have hstep := Nat.mul_le_mul_right den (Nat.succ_le_of_lt hlt)
    rw [Nat.succ_mul] at hstep
    exact Or.inl hstep
  · rcases Nat.lt_or_ge (floor + 1) k with hgt | hle
    · have hstep := Nat.mul_le_mul_right den (Nat.succ_le_of_lt hgt)
      rw [Nat.succ_mul, Nat.succ_mul] at hstep
      exact Or.inr (Or.inr (Or.inr (by omega)))
    · omega

theorem dist_nearestEven (h : 0 < den) {k : Nat} (hk : k ≠ nearestEven num den) :
    Nat.dist (nearestEven num den * den) num < Nat.dist (k * den) num ∨
      Nat.dist (nearestEven num den * den) num = Nat.dist (k * den) num ∧
        nearestEven num den % 2 = 0 := by
  have hdigits := Nat.div_add_mod' num den
  have hrest := Nat.mod_lt num h
  have hstep := Nat.add_one_mul (num / den) den
  unfold Nat.dist
  obtain ⟨hr, htie⟩ | ⟨hr, htie⟩ := nearestEven_cases num den
  · rw [hr] at hk ⊢
    obtain hfar | rfl | rfl | hfar := mul_cases k (num / den) den <;> omega
  · rw [hr] at hk ⊢
    obtain hfar | rfl | rfl | hfar := mul_cases k (num / den) den <;> omega

end Multiple

namespace BinaryFormat
variable (f : BinaryFormat) {den : Nat} {m : Magnitude}

/-- The quanta between the neighbours of a ratio, over its denominator. -/
def stepOf (num den : Nat) : Nat := den <<< f.scaleOf (num <<< f.fraction / den)

theorem significandOf_eq (num den : Nat) :
    f.significandOf num den = nearestEven (num <<< f.fraction) (f.stepOf num den) := rfl

theorem stepOf_pos (num : Nat) (hd : 0 < den) : 0 < f.stepOf num den := by
  rw [stepOf, shiftLeft_eq_mul]
  exact Nat.mul_pos hd (one_shiftLeft_pos _)

theorem quanta_round_mul (hp : 0 < f.precision) (num den : Nat) :
    (f.round num den).quanta * den = f.significandOf num den * f.stepOf num den := by
  rw [f.quanta_round num den hp, stepOf, shiftLeft_eq_mul, shiftLeft_eq_mul den, Nat.mul_assoc,
    Nat.mul_comm den]

/-- A magnitude is a multiple of the step, or is below the least full significand of the scale. -/
theorem multiple_or_below (hp : 0 < f.precision) (num : Nat) (hd : 0 < den)
    (hm : m.Canonical f.precision) :
    (∃ k, m.quanta * den = k * f.stepOf num den) ∨
      m.quanta * den < 1 <<< (f.precision - 1) * f.stepOf num den ∧
        1 <<< (f.precision - 1) * f.stepOf num den ≤ num <<< f.fraction := by
  have hfull := f.le_shifted (n := num <<< f.fraction / den)
  rw [Nat.div_div_eq_div_mul, Nat.le_div_iff_mul_le (Nat.mul_pos hd (one_shiftLeft_pos _))] at hfull
  rw [stepOf, Magnitude.quanta, shiftLeft_eq_mul m.significand, shiftLeft_eq_mul den]
  generalize f.scaleOf (num <<< f.fraction / den) = scale at hfull ⊢
  rcases Nat.lt_or_ge m.scale scale with hlt | hge
  · refine Or.inr ⟨?_, hfull (by omega) hp⟩
    have hlow := Nat.mul_lt_mul_of_pos_right hm.1 (one_shiftLeft_pos m.scale)
    have hpow : 1 <<< f.precision * 1 <<< m.scale ≤ 1 <<< (f.precision - 1) * 1 <<< scale :=
      one_shiftLeft_mul_le (by omega)
    rw [Nat.mul_left_comm, Nat.mul_comm]
    exact Nat.mul_lt_mul_of_pos_left (Nat.lt_of_lt_of_le hlow hpow) hd
  · refine Or.inl ⟨m.significand * 1 <<< (m.scale - scale), ?_⟩
    have hpow : 1 <<< m.scale = 1 <<< (m.scale - scale) * 1 <<< scale := by
      rw [← shiftLeft_eq_mul, ← Nat.shiftLeft_add, Nat.sub_add_cancel hge]
    rw [hpow, ← Nat.mul_assoc, Nat.mul_assoc, Nat.mul_comm (1 <<< scale)]

/-- Another magnitude is farther away, or as far if the significand of the nearest is even. -/
theorem dist_round (hp : 1 < f.precision) (num : Nat) (hd : 0 < den)
    (hm : m.Canonical f.precision) (hne : m.quanta ≠ (f.round num den).quanta) :
    Nat.dist ((f.round num den).quanta * den) (num <<< f.fraction) <
        Nat.dist (m.quanta * den) (num <<< f.fraction) ∨
      Nat.dist ((f.round num den).quanta * den) (num <<< f.fraction) =
          Nat.dist (m.quanta * den) (num <<< f.fraction) ∧
        (f.round num den).significand % 2 = 0 := by
  have hstep := f.stepOf_pos num hd
  have hround := f.quanta_round_mul (Nat.lt_of_succ_lt hp) num den
  obtain ⟨k, hk⟩ | ⟨hbelow, hle⟩ := f.multiple_or_below (Nat.lt_of_succ_lt hp) num hd hm
  · have hother : k ≠ nearestEven (num <<< f.fraction) (f.stepOf num den) := by
      rintro rfl
      rw [← significandOf_eq, ← hround] at hk
      exact hne (Nat.eq_of_mul_eq_mul_right hd hk)
    rw [hk, hround, significandOf_eq]
    refine (dist_nearestEven hstep hother).imp_right fun ⟨hfar, heven⟩ => ⟨hfar, ?_⟩
    rw [← significandOf_eq] at heven
    rw [round_eq]
    split
    · obtain ⟨p, hp⟩ : ∃ p, f.precision = p + 2 := ⟨f.precision - 2, by omega⟩
      simp [hp, Nat.shiftLeft_eq, Nat.pow_succ]
    · exact heven
  · left
    have hfloor : Nat.dist (f.significandOf num den * f.stepOf num den) (num <<< f.fraction) ≤
        Nat.dist (1 <<< (f.precision - 1) * f.stepOf num den) (num <<< f.fraction) := by
      rw [significandOf_eq]
      by_cases heq : 1 <<< (f.precision - 1) = nearestEven (num <<< f.fraction) (f.stepOf num den)
      · rw [heq]
      · rcases dist_nearestEven hstep heq with hfar | ⟨hfar, _⟩
        · exact Nat.le_of_lt hfar
        · exact Nat.le_of_eq hfar
    rw [hround]
    refine Nat.lt_of_le_of_lt hfloor ?_
    unfold Nat.dist
    omega

end BinaryFormat

/-! ## Integers -/

def Binary64.value (x : Binary64) : ℚ := x.quanta / Binary64.unit

/-- The double nearest to an integer, with an even significand where another one is as near. -/
structure Binary64.Nearest (n : Int) (x : Binary64) : Prop where
  near : ∀ y : Binary64, |x.value - n| ≤ |y.value - n|
  even : ∀ y : Binary64, |y.value - n| = |x.value - n| →
    y.value = x.value ∨ x.magnitude.significand % 2 = 0

theorem Binary64.unit_pos : 0 < Binary64.unit := by decide

theorem Binary64.abs_value_sub (x : Binary64) (n : Int) :
    |x.value - n| = ((x.quanta - n * Binary64.unit).natAbs : ℚ) / Binary64.unit := by
  have hpos : (0 : ℚ) < Binary64.unit := Int.cast_pos.mpr Binary64.unit_pos
  have hsub : x.value - n = ((x.quanta - n * Binary64.unit : Int) : ℚ) / Binary64.unit := by
    rw [Binary64.value, Int.cast_sub, Int.cast_mul, sub_div, mul_div_cancel_right₀ _ hpos.ne']
  rw [hsub, abs_div, abs_of_pos hpos, ← Int.cast_abs, Nat.cast_natAbs]

namespace Extended
variable {n m : Int} {x y : Binary64}

theorem natAbs_sub_of_ofInt (h : ofInt n = .finite x) (hne : y.quanta ≠ x.quanta) :
    (x.quanta - n * Binary64.unit).natAbs < (y.quanta - n * Binary64.unit).natAbs ∨
      (x.quanta - n * Binary64.unit).natAbs = (y.quanta - n * Binary64.unit).natAbs ∧
        x.magnitude.significand % 2 = 0 := by
  have hx := quanta_of_ofInt h
  have hy : y.quanta = y.magnitude.quanta ∨ y.quanta = -(y.magnitude.quanta : Int) := by
    unfold Binary64.quanta
    split
    · exact Or.inr rfl
    · exact Or.inl rfl
  have hexact : n ≠ 0 → 0 < n.natAbs * 1 <<< BinaryFormat.double.fraction := fun hn =>
    Nat.mul_pos (by omega) (by rw [Nat.one_shiftLeft]; exact Nat.two_pow_pos _)
  have hround := BinaryFormat.double.dist_round (by decide) n.natAbs Nat.one_pos y.canonical
  rw [Nat.mul_one, Nat.mul_one, Nat.shiftLeft_eq, ← Nat.one_shiftLeft] at hround
  rw [Binary64.mul_unit, (finite_of_ofInt h).2]
  have hzero : n = 0 → (BinaryFormat.double.round n.natAbs 1).quanta = 0 := by
    rintro rfl
    decide
  unfold Nat.dist at hround
  generalize n.natAbs * 1 <<< BinaryFormat.double.fraction = exact at *
  generalize BinaryFormat.double.round n.natAbs 1 = m at *
  by_cases hmag : y.magnitude.quanta = m.quanta
  · left
    split at hx <;> omega
  · obtain hfar | ⟨hfar, heven⟩ := hround hmag
    · left
      split at hx <;> omega
    · refine (Nat.lt_or_eq_of_le ?_).imp_right fun htie => ⟨htie, heven⟩
      split at hx <;> omega

theorem nearest_of_ofInt (h : ofInt n = .finite x) : x.Nearest n := by
  have hpos : (0 : ℚ) < Binary64.unit := Int.cast_pos.mpr Binary64.unit_pos
  refine ⟨fun y => ?_, fun y hy => ?_⟩
  · rw [x.abs_value_sub, y.abs_value_sub, div_le_div_iff_of_pos_right hpos, Nat.cast_le]
    by_cases hne : y.quanta = x.quanta
    · rw [hne]
    · exact (natAbs_sub_of_ofInt h hne).elim Nat.le_of_lt fun ⟨htie, _⟩ => Nat.le_of_eq htie
  · rw [x.abs_value_sub, y.abs_value_sub, div_left_inj' hpos.ne', Nat.cast_inj] at hy
    by_cases hne : y.quanta = x.quanta
    · exact Or.inl (by rw [Binary64.value, Binary64.value, hne])
    · rcases natAbs_sub_of_ofInt h hne with hfar | ⟨_, heven⟩
      · omega
      · exact Or.inr heven

theorem exists_ofInt (h : n.natAbs ≤ 1 <<< 64) : ∃ x, ofInt n = .finite x :=
  exists_ofInt_of_scale_le
    (Nat.le_trans (BinaryFormat.double.scale_round_le_of_le h) (by decide))

theorem unit_le_quanta_round {a : Nat} (h : 0 < a) :
    Binary64.unit ≤ (BinaryFormat.double.round a 1).quanta := by
  have hone := BinaryFormat.double.round_of_le (by decide) (by decide : 1 ≤ 1 <<< 53)
  have hle := BinaryFormat.double.quanta_round_mono (by decide) h 1
  rw [hone.1, Nat.one_mul] at hle
  exact Int.ofNat_le.mpr hle

theorem quanta_ofInt_mono (h : n ≤ m) (hx : ofInt n = .finite x) (hy : ofInt m = .finite y) :
    x.quanta ≤ y.quanta := by
  rw [quanta_of_ofInt hx, quanta_of_ofInt hy]
  have hmono {a b : Nat} (hab : a ≤ b) : (BinaryFormat.double.round a 1).quanta ≤
      (BinaryFormat.double.round b 1).quanta :=
    BinaryFormat.double.quanta_round_mono (by decide) hab 1
  by_cases hn : n < 0
  · by_cases hm : m < 0
    · have hab := hmono (a := m.natAbs) (b := n.natAbs) (by omega)
      rw [if_pos hn, if_pos hm]
      omega
    · rw [if_pos hn, if_neg hm]
      omega
  · have hab := hmono (a := n.natAbs) (b := m.natAbs) (by omega)
    rw [if_neg hn, if_neg (by omega)]
    omega

theorem quanta_ofInt_neg_iff (h : ofInt n = .finite x) : x.quanta < 0 ↔ n < 0 := by
  rw [quanta_of_ofInt h]
  by_cases hn : n < 0
  · have hunit := unit_le_quanta_round (a := n.natAbs) (by omega)
    have hpos := Binary64.unit_pos
    rw [if_pos hn]
    omega
  · rw [if_neg hn]
    omega

theorem quanta_ofInt_pos_iff (h : ofInt n = .finite x) : 0 < x.quanta ↔ 0 < n := by
  obtain hn | rfl | hn := Int.lt_trichotomy n 0
  · have hneg := (quanta_ofInt_neg_iff h).mpr hn
    omega
  · cases h
    decide
  · have hunit := unit_le_quanta_round (a := n.natAbs) (by omega)
    have hpos := Binary64.unit_pos
    rw [quanta_of_ofInt h, if_neg (by omega)]
    omega

theorem ofInt_eq_of_quanta_eq (hx : ofInt n = .finite x) (hy : ofInt m = .finite y)
    (h : x.quanta = y.quanta) : ofInt n = ofInt m := by
  have hsign : n < 0 ↔ m < 0 := by rw [← quanta_ofInt_neg_iff hx, ← quanta_ofInt_neg_iff hy, h]
  obtain ⟨hxs, hxm⟩ := finite_of_ofInt hx
  obtain ⟨hys, hym⟩ := finite_of_ofInt hy
  rw [hx, hy, finite.injEq]
  refine Binary64.ext (by rw [hxs, hys, decide_eq_decide.mpr hsign]) ?_
  refine x.canonical.eq_of_quanta_eq (by decide) y.canonical ?_
  simp only [Binary64.quanta, hxs, hys, decide_eq_decide.mpr hsign] at h
  split at h <;> omega

end Extended
end Schemata
