/-! # Rounding to a binary format

A magnitude of a binary format is `significand <<< scale` quanta, a quantum being the least
positive magnitude of the format. A ratio of naturals rounds to the nearest magnitude, a half going
to the even significand. Main statements: the rounded significand fills the precision unless the
scale is zero, so that each magnitude has one representation, and rounding keeps the order.
-/
namespace Schemata

structure BinaryFormat where
  /-- Bits of a significand. -/
  precision : Nat
  /-- A quantum is one over `1 <<< fraction`. -/
  fraction : Nat
  topScale : Nat

def BinaryFormat.single : BinaryFormat := ⟨24, 149, 253⟩
def BinaryFormat.double : BinaryFormat := ⟨53, 1074, 2045⟩

/-- The natural nearest to `num / den`, the even one of two. -/
def nearestEven (num den : Nat) : Nat :=
  let floor := num / den
  let rest := 2 * (num % den)
  if rest < den then floor
  else if rest > den then floor + 1
  else floor + floor % 2

theorem le_nearestEven (num den : Nat) : num / den ≤ nearestEven num den := by
  simp only [nearestEven]
  split
  · omega
  · split <;> omega

theorem nearestEven_le (num den : Nat) : nearestEven num den ≤ num / den + 1 := by
  simp only [nearestEven]
  split
  · omega
  · split <;> omega

theorem nearestEven_mono {num num' : Nat} (h : num ≤ num') (den : Nat) :
    nearestEven num den ≤ nearestEven num' den := by
  rcases Nat.lt_or_eq_of_le (Nat.div_le_div_right h : num / den ≤ num' / den) with hlt | heq
  · exact Nat.le_trans (nearestEven_le num den) (Nat.le_trans hlt (le_nearestEven num' den))
  · have hdigits := Nat.div_add_mod num den
    have hdigits' := Nat.div_add_mod num' den
    rw [← heq] at hdigits'
    simp only [nearestEven, ← heq]
    repeat' split
    all_goals omega

theorem nearestEven_mul {den : Nat} (h : 0 < den) (k : Nat) : nearestEven (k * den) den = k := by
  simp [nearestEven, Nat.mul_div_cancel k h, h]

theorem one_shiftLeft_pos (n : Nat) : 0 < 1 <<< n := by
  rw [Nat.one_shiftLeft]
  exact Nat.two_pow_pos n

theorem shiftLeft_eq_mul (n scale : Nat) : n <<< scale = n * 1 <<< scale := by
  rw [Nat.shiftLeft_eq, Nat.one_shiftLeft]

theorem one_shiftLeft_mul_le {a b c d : Nat} (h : a + b ≤ c + d) :
    1 <<< a * 1 <<< b ≤ 1 <<< c * 1 <<< d := by
  simp only [Nat.one_shiftLeft, ← Nat.pow_add]
  exact Nat.pow_le_pow_right (by omega) h

structure Magnitude where
  significand : Nat
  scale : Nat
deriving DecidableEq

/-- The one representation of a magnitude: a full significand, or no scaling. -/
def Magnitude.Canonical (precision : Nat) (m : Magnitude) : Prop :=
  m.significand < 1 <<< precision ∧ (1 <<< (precision - 1) ≤ m.significand ∨ m.scale = 0)

def Magnitude.quanta (m : Magnitude) : Nat := m.significand <<< m.scale

namespace Magnitude
variable {precision : Nat} {m m' : Magnitude}

theorem Canonical.scale_le_of_quanta_le (hp : 0 < precision) (hm : m.Canonical precision)
    (hm' : m'.Canonical precision) (h : m.quanta ≤ m'.quanta) : m.scale ≤ m'.scale := by
  refine Nat.le_of_not_lt fun hlt => ?_
  rw [quanta, quanta, shiftLeft_eq_mul, shiftLeft_eq_mul m'.significand] at h
  have hfull : 1 <<< (precision - 1) ≤ m.significand := hm.2.resolve_right (by omega)
  have hpow : 1 <<< precision * 1 <<< m'.scale ≤ 1 <<< (precision - 1) * 1 <<< m.scale :=
    one_shiftLeft_mul_le (by omega)
  have hlow := Nat.mul_le_mul_right (1 <<< m.scale) hfull
  have hhigh := Nat.mul_lt_mul_of_pos_right hm'.1 (one_shiftLeft_pos m'.scale)
  exact absurd h (Nat.not_le_of_lt (Nat.lt_of_lt_of_le hhigh (Nat.le_trans hpow hlow)))

theorem Canonical.eq_of_quanta_eq (hp : 0 < precision) (hm : m.Canonical precision)
    (hm' : m'.Canonical precision) (h : m.quanta = m'.quanta) : m = m' := by
  have hscale : m.scale = m'.scale :=
    Nat.le_antisymm (hm.scale_le_of_quanta_le hp hm' (Nat.le_of_eq h))
      (hm'.scale_le_of_quanta_le hp hm (Nat.le_of_eq h.symm))
  obtain ⟨significand, scale⟩ := m
  obtain ⟨significand', scale'⟩ := m'
  obtain rfl : scale = scale' := hscale
  simp only [quanta, Nat.shiftLeft_eq] at h
  rw [Nat.eq_of_mul_eq_mul_right (Nat.two_pow_pos scale) h]

end Magnitude

/-- The magnitude nearest to `num / den`, with no upper limit on the scale. -/
def BinaryFormat.round (f : BinaryFormat) (num den : Nat) : Magnitude :=
  let quanta := num <<< f.fraction
  let scale := (quanta / den).log2 + 1 - f.precision
  let significand := nearestEven quanta (den <<< scale)
  if significand = 1 <<< f.precision then ⟨1 <<< (f.precision - 1), scale + 1⟩
  else ⟨significand, scale⟩

namespace BinaryFormat
variable (f : BinaryFormat)

/-- How many digits of a quotient there is no room for. -/
def scaleOf (quotient : Nat) : Nat := quotient.log2 + 1 - f.precision

theorem shifted_lt (n : Nat) : n / 1 <<< f.scaleOf n < 1 <<< f.precision := by
  rw [Nat.div_lt_iff_lt_mul (one_shiftLeft_pos _), Nat.one_shiftLeft, Nat.one_shiftLeft,
    ← Nat.pow_add]
  have hdigits : n.log2 + 1 ≤ f.precision + f.scaleOf n := by
    unfold scaleOf
    omega
  exact Nat.lt_of_lt_of_le Nat.lt_log2_self (Nat.pow_le_pow_right (by omega) hdigits)

/-- A quotient with digits too many fills the precision without them. -/
theorem le_shifted {n : Nat} (h : 0 < f.scaleOf n) (hp : 0 < f.precision) :
    1 <<< (f.precision - 1) ≤ n / 1 <<< f.scaleOf n := by
  rw [Nat.le_div_iff_mul_le (one_shiftLeft_pos _), Nat.one_shiftLeft, Nat.one_shiftLeft,
    ← Nat.pow_add]
  unfold scaleOf at h ⊢
  have hlog : f.precision - 1 + (n.log2 + 1 - f.precision) = n.log2 := by omega
  rw [hlog]
  refine Nat.log2_self_le fun hz => ?_
  rw [hz, Nat.log2_zero] at h
  omega

theorem scaleOf_mono {n m : Nat} (h : n ≤ m) : f.scaleOf n ≤ f.scaleOf m := by
  have hlog : n.log2 ≤ m.log2 := by
    by_cases hn : n = 0
    · rw [hn, Nat.log2_zero]
      exact Nat.zero_le _
    · exact (Nat.le_log2 (by omega)).mpr (Nat.le_trans (Nat.log2_self_le hn) h)
  unfold scaleOf
  omega

theorem one_shiftLeft_precision (hp : 0 < f.precision) :
    1 <<< f.precision = 2 * 1 <<< (f.precision - 1) := by
  rw [Nat.one_shiftLeft, Nat.one_shiftLeft, ← Nat.pow_succ', Nat.succ_eq_add_one,
    Nat.sub_add_cancel hp]

variable (num den : Nat)

/-- The digits of a ratio that there is room for, rounded. -/
def significandOf : Nat :=
  nearestEven (num <<< f.fraction) (den <<< f.scaleOf (num <<< f.fraction / den))

/-- The digits may be one too many after all, when they are rounded up. -/
theorem round_eq : f.round num den =
    if f.significandOf num den = 1 <<< f.precision then
      ⟨1 <<< (f.precision - 1), f.scaleOf (num <<< f.fraction / den) + 1⟩
    else ⟨f.significandOf num den, f.scaleOf (num <<< f.fraction / den)⟩ := rfl

theorem floor_significandOf :
    num <<< f.fraction / (den <<< f.scaleOf (num <<< f.fraction / den)) =
      num <<< f.fraction / den / 1 <<< f.scaleOf (num <<< f.fraction / den) := by
  rw [shiftLeft_eq_mul den, Nat.div_div_eq_div_mul]

theorem significandOf_le : f.significandOf num den ≤ 1 <<< f.precision := by
  have hle := nearestEven_le (num <<< f.fraction) (den <<< f.scaleOf (num <<< f.fraction / den))
  have hlt := f.shifted_lt (num <<< f.fraction / den)
  rw [floor_significandOf] at hle
  exact Nat.le_trans hle hlt

theorem le_significandOf (h : 0 < f.scaleOf (num <<< f.fraction / den)) (hp : 0 < f.precision) :
    1 <<< (f.precision - 1) ≤ f.significandOf num den := by
  have hle := le_nearestEven (num <<< f.fraction) (den <<< f.scaleOf (num <<< f.fraction / den))
  rw [floor_significandOf] at hle
  exact Nat.le_trans (f.le_shifted h hp) hle

theorem quanta_round (hp : 0 < f.precision) : (f.round num den).quanta =
    f.significandOf num den <<< f.scaleOf (num <<< f.fraction / den) := by
  rw [round_eq]
  split
  · next h =>
    rw [h, f.one_shiftLeft_precision hp]
    exact Nat.shiftLeft_succ_inside _ _
  · rfl

theorem quanta_round_mono (hp : 0 < f.precision) {num num' : Nat} (h : num ≤ num') (den : Nat) :
    (f.round num den).quanta ≤ (f.round num' den).quanta := by
  have hshift : num <<< f.fraction ≤ num' <<< f.fraction := by
    rw [Nat.shiftLeft_eq, Nat.shiftLeft_eq]
    exact Nat.mul_le_mul_right _ h
  have hscale := f.scaleOf_mono (Nat.div_le_div_right hshift : _ / den ≤ _ / den)
  rw [f.quanta_round num den hp, f.quanta_round num' den hp, shiftLeft_eq_mul,
    shiftLeft_eq_mul (f.significandOf num' den)]
  rcases Nat.lt_or_eq_of_le hscale with hlt | heq
  · have hlow := Nat.mul_le_mul_right (1 <<< f.scaleOf (num <<< f.fraction / den))
      (f.significandOf_le num den)
    have hhigh := Nat.mul_le_mul_right (1 <<< f.scaleOf (num' <<< f.fraction / den))
      (f.le_significandOf num' den (by omega) hp)
    have hpow : 1 <<< f.precision * 1 <<< f.scaleOf (num <<< f.fraction / den) ≤
        1 <<< (f.precision - 1) * 1 <<< f.scaleOf (num' <<< f.fraction / den) :=
      one_shiftLeft_mul_le (by omega)
    exact Nat.le_trans hlow (Nat.le_trans hpow hhigh)
  · simp only [significandOf, ← heq]
    exact Nat.mul_le_mul_right _ (nearestEven_mono hshift _)

end BinaryFormat

theorem BinaryFormat.round_canonical (f : BinaryFormat) (hp : 0 < f.precision) (num den : Nat) :
    (f.round num den).Canonical f.precision := by
  have hpow := f.one_shiftLeft_precision hp
  have hpos := one_shiftLeft_pos (f.precision - 1)
  rw [round_eq]
  split
  · refine ⟨?_, Or.inl (Nat.le_refl _)⟩
    show 1 <<< (f.precision - 1) < 1 <<< f.precision
    omega
  · next hne =>
    refine ⟨Nat.lt_of_le_of_ne (f.significandOf_le num den) hne, ?_⟩
    rcases Nat.eq_zero_or_pos (f.scaleOf (num <<< f.fraction / den)) with h | h
    · exact Or.inr h
    · exact Or.inl (f.le_significandOf num den h hp)

theorem BinaryFormat.scale_round_le (f : BinaryFormat) (num den : Nat) :
    (f.round num den).scale ≤ f.scaleOf (num <<< f.fraction / den) + 1 := by
  rw [round_eq]
  split
  · exact Nat.le_refl _
  · exact Nat.le_succ _

theorem BinaryFormat.scale_round_le_of_le (f : BinaryFormat) {num bits : Nat}
    (h : num ≤ 1 <<< bits) : (f.round num 1).scale ≤ bits + f.fraction + 1 - f.precision + 1 := by
  have hle : num <<< f.fraction ≤ 2 ^ (bits + f.fraction) := by
    rw [Nat.shiftLeft_eq, Nat.pow_add, ← Nat.one_shiftLeft bits]
    exact Nat.mul_le_mul_right _ h
  have hscale := f.scaleOf_mono hle
  have hround := f.scale_round_le num 1
  rw [scaleOf, scaleOf, Nat.log2_two_pow] at hscale
  rw [scaleOf, Nat.div_one] at hround
  omega

/-- A natural that ends in as many zeros as it has digits too many is not changed. -/
theorem BinaryFormat.quanta_round_of_dvd (f : BinaryFormat) (hp : 0 < f.precision) (num : Nat)
    (h : 1 <<< f.scaleOf (num <<< f.fraction) ∣ num <<< f.fraction) :
    (f.round num 1).quanta = num <<< f.fraction := by
  rw [f.quanta_round num 1 hp, significandOf, Nat.div_one]
  obtain ⟨k, hk⟩ := h
  generalize f.scaleOf (num <<< f.fraction) = scale at hk ⊢
  rw [hk, Nat.mul_comm, nearestEven_mul (one_shiftLeft_pos scale), shiftLeft_eq_mul]

/-- The naturals that have few enough bits are not changed, and nor is the next one. -/
theorem BinaryFormat.round_of_le (f : BinaryFormat) (hp : 0 < f.precision) {num : Nat}
    (h : num ≤ 1 <<< f.precision) :
    (f.round num 1).quanta = num * 1 <<< f.fraction ∧
      (f.round num 1).scale ≤ f.fraction + 2 := by
  have hshift : num <<< f.fraction = num * 2 ^ f.fraction := Nat.shiftLeft_eq num f.fraction
  have hscale := f.scale_round_le num 1
  have hquanta := f.quanta_round_of_dvd hp num
  rw [Nat.div_one, scaleOf, hshift] at hscale
  rw [hshift, scaleOf, Nat.shiftLeft_eq, Nat.one_mul] at hquanta
  rw [Nat.shiftLeft_eq, Nat.one_mul] at h ⊢
  rcases Nat.lt_or_eq_of_le h with hlt | rfl
  · have hlog : (num * 2 ^ f.fraction).log2 + 1 - f.precision ≤ f.fraction := by
      by_cases hzero : num * 2 ^ f.fraction = 0
      · rw [hzero, Nat.log2_zero]
        omega
      · have hbits : num * 2 ^ f.fraction < 2 ^ (f.precision + f.fraction) := by
          rw [Nat.pow_add]
          exact Nat.mul_lt_mul_of_pos_right hlt (Nat.two_pow_pos _)
        have hdigits := (Nat.log2_lt hzero).mpr hbits
        omega
    exact ⟨hquanta (Nat.dvd_mul_left_of_dvd (Nat.pow_dvd_pow 2 hlog) num), by omega⟩
  · rw [← Nat.pow_add, Nat.log2_two_pow] at hscale hquanta
    rw [← Nat.pow_add]
    exact ⟨hquanta (Nat.pow_dvd_pow 2 (by omega)), by omega⟩

end Schemata
