import Schemata.Decode
import Schemata.Proofs.Bounds

/-! # Integers parsed into words

A schema asks for an integer between the ends of a range, and what it accepts is decoded into that
range. Bounds are compared as doubles, but beside an end that has fewer digits than a double no
rounding crosses it. So the schema accepts just the numbers whose exact value is an integer of the
range; of these the ones that are written as doubles are then refused by the target.
-/
namespace Schemata

/-! ## Comparing with an integer of few digits -/

namespace Binary64

theorem value_lt_iff (x : Binary64) (b : Int) : x.value < b ↔ x.quanta < b * unit := by
  rw [value, div_lt_iff₀ (Int.cast_pos.mpr unit_pos), ← Int.cast_mul, Int.cast_lt]

theorem lt_value_iff (x : Binary64) (b : Int) : b < x.value ↔ b * unit < x.quanta := by
  rw [value, lt_div_iff₀ (Int.cast_pos.mpr unit_pos), ← Int.cast_mul, Int.cast_lt]

end Binary64

namespace Extended
variable {n b : Int} {x : Binary64}

/-- Only an integer that no word holds is too large for a double. -/
theorem ofInt_finite_or_infinite (n : Int) : (∃ x, ofInt n = .finite x) ∨
    ofInt n = .infinite (decide (n < 0)) ∧ 1 <<< 64 < n.natAbs := by
  by_cases h : n.natAbs ≤ 1 <<< 64
  · exact Or.inl (exists_ofInt h)
  · simp only [ofInt, ofRatio]
    split
    · exact Or.inl ⟨_, rfl⟩
    · exact Or.inr ⟨rfl, Nat.lt_of_not_le h⟩

theorem mul_unit_le_quanta (hb : b.natAbs ≤ 1 <<< 53) (hx : ofInt n = .finite x) (h : b ≤ n) :
    b * Binary64.unit ≤ x.quanta := by
  obtain ⟨y, hy, hyq⟩ := ofInt_of_natAbs_le hb
  rw [← hyq]
  exact quanta_ofInt_mono h hy hx

theorem quanta_le_mul_unit (hb : b.natAbs ≤ 1 <<< 53) (hx : ofInt n = .finite x) (h : n ≤ b) :
    x.quanta ≤ b * Binary64.unit := by
  obtain ⟨y, hy, hyq⟩ := ofInt_of_natAbs_le hb
  rw [← hyq]
  exact quanta_ofInt_mono h hx hy

theorem quanta_lt_iff (hb : b.natAbs < 1 <<< 53) (hx : ofInt n = .finite x) :
    x.quanta < b * Binary64.unit ↔ n < b := by
  constructor
  · intro h
    exact lt_of_not_ge fun hge => absurd h (mul_unit_le_quanta hb.le hx hge).not_gt
  · intro h
    have hle := quanta_le_mul_unit (b := b - 1) (by omega) hx (by omega)
    have hpos := Binary64.unit_pos
    rw [Int.sub_mul, Int.one_mul] at hle
    omega

theorem lt_quanta_iff (hb : b.natAbs < 1 <<< 53) (hx : ofInt n = .finite x) :
    b * Binary64.unit < x.quanta ↔ b < n := by
  constructor
  · intro h
    exact lt_of_not_ge fun hge => absurd h (quanta_le_mul_unit hb.le hx hge).not_gt
  · intro h
    have hle := mul_unit_le_quanta (b := b + 1) (by omega) hx (by omega)
    have hpos := Binary64.unit_pos
    rw [Int.add_mul, Int.one_mul] at hle
    omega

end Extended

namespace Number
variable {b : Int}

theorem less_ofInt_iff (hb : b.natAbs < 1 <<< 53) (x : Number) :
    x.toDouble.less (.ofInt b) = true ↔ x.value < b := by
  obtain ⟨y, hy, hyq⟩ := Extended.ofInt_of_natAbs_le hb.le
  cases x with
  | int n =>
    have hcast : (int n).value < b ↔ n < b := Int.cast_lt
    rw [hcast, toDouble, hy]
    obtain ⟨z, hz⟩ | ⟨hz, hbig⟩ := Extended.ofInt_finite_or_infinite n
    · rw [hz, ← Extended.quanta_lt_iff hb hz, ← hyq]
      exact decide_eq_true_iff
    · rw [hz]
      refine decide_eq_true_iff.trans ?_
      omega
  | float d =>
    rw [value, d.value_lt_iff, ← hyq, hy]
    exact decide_eq_true_iff

theorem ofInt_less_iff (hb : b.natAbs < 1 <<< 53) (x : Number) :
    (Extended.ofInt b).less x.toDouble = true ↔ b < x.value := by
  obtain ⟨y, hy, hyq⟩ := Extended.ofInt_of_natAbs_le hb.le
  cases x with
  | int n =>
    have hcast : b < (int n).value ↔ b < n := Int.cast_lt
    rw [hcast, toDouble, hy]
    obtain ⟨z, hz⟩ | ⟨hz, hbig⟩ := Extended.ofInt_finite_or_infinite n
    · rw [hz, ← Extended.lt_quanta_iff hb hz, ← hyq]
      exact decide_eq_true_iff
    · rw [hz]
      have hless : (Extended.finite y).less (.infinite (decide (n < 0))) = !decide (n < 0) := rfl
      rw [hless, Bool.not_eq_true', decide_eq_false_iff_not]
      omega
  | float d =>
    rw [value, d.lt_value_iff, ← hyq, hy]
    exact decide_eq_true_iff

theorem isInteger_iff (x : Number) : x.isInteger = true ↔ ∃ k : Int, x.value = k := by
  cases x with
  | int n => exact iff_of_true rfl ⟨n, rfl⟩
  | float d => exact d.isInteger_iff

end Number

/-! ## Parsing -/

namespace Schema
variable {s : Schema} {v : Value}

theorem parse_of_passes (h : s.Passes v) : s.parse v = pure (.ok v) := by
  rw [parse, parseInput, h Path.root]
  rfl

theorem exists_parse_of_rejects (h : s.Rejects v) : ∃ is, s.parse v = pure (.error is) := by
  obtain ⟨is, hv⟩ := h Path.root
  exact ⟨is, by rw [parse, parseInput, hv]; rfl⟩

end Schema

namespace IntRange

/-- The ends have fewer digits than a double. -/
structure Short (r : IntRange) : Prop where
  least : r.least.natAbs < 1 <<< 53
  greatest : r.greatest.natAbs < 1 <<< 53

theorem short_unsigned {bits : Nat} (h : bits ≤ 53) : (unsigned bits).Short where
  least := (by decide : (0 : Int).natAbs < 1 <<< 53)
  greatest := by
    have hpow : 1 <<< bits ≤ 1 <<< 53 := by
      rw [Nat.one_shiftLeft, Nat.one_shiftLeft]
      exact Nat.pow_le_pow_right (by decide) h
    have hpos := one_shiftLeft_pos bits
    simp only [unsigned]
    omega

def schema (r : IntRange) : Schema :=
  .number (((NumberRules.integer .none).min (.ofInt r.least)).max (.ofInt r.greatest))

/-- An integer of the range, written as one. -/
def Writes (r : IntRange) (v : Value) : Prop := ∃ n, v = .int n ∧ r.contains n = true

/-- A double that is an integer of the range. -/
def WritesDouble (r : IntRange) (v : Value) : Prop :=
  ∃ x : Binary64, v = .number (.float x) ∧ ∃ n : Int, x.value = n ∧ r.contains n = true

variable {r : IntRange}

theorem contains_iff {n : Int} : r.contains n = true ↔ r.least ≤ n ∧ n ≤ r.greatest := by
  rw [contains, Bool.and_eq_true, decide_eq_true_eq, decide_eq_true_eq]

theorem holds_iff (hr : r.Short) (x : Number) :
    (∀ rule ∈ (((NumberRules.integer .none).min (.ofInt r.least)).max (.ofInt r.greatest)).rules,
      rule.constraint.holds x = true) ↔ ∃ n : Int, x.value = n ∧ r.contains n = true := by
  have hmin := Number.less_ofInt_iff hr.least x
  have hmax := Number.ofInt_less_iff hr.greatest x
  have hrules : (∀ rule ∈ (((NumberRules.integer .none).min (.ofInt r.least)).max
        (.ofInt r.greatest)).rules, rule.constraint.holds x = true) ↔
      x.isInteger = true ∧ r.least ≤ x.value ∧ x.value ≤ r.greatest := by
    simp [NumberRules.integer, NumberRules.min, NumberRules.max, Rules.none, Rules.add,
      NumberConstraint.holds, ← not_lt, ← hmin, ← hmax]
  rw [hrules, Number.isInteger_iff]
  constructor
  · rintro ⟨⟨n, hn⟩, hlow, hhigh⟩
    rw [hn, Int.cast_le] at hlow hhigh
    exact ⟨n, hn, contains_iff.mpr ⟨hlow, hhigh⟩⟩
  · rintro ⟨n, hn, hc⟩
    obtain ⟨hlow, hhigh⟩ := contains_iff.mp hc
    rw [hn, Int.cast_le, Int.cast_le]
    exact ⟨⟨n, rfl⟩, hlow, hhigh⟩

theorem writes_number_iff (x : Number) : r.Writes (.number x) ∨ r.WritesDouble (.number x) ↔
    ∃ n : Int, x.value = n ∧ r.contains n = true := by
  constructor
  · rintro (⟨n, hn, hc⟩ | ⟨d, hd, hn⟩)
    · cases hn
      exact ⟨n, rfl, hc⟩
    · cases hd
      exact hn
  · rintro ⟨n, hn, hc⟩
    cases x with
    | int m =>
      obtain rfl : m = n := Int.cast_injective hn
      exact Or.inl ⟨m, rfl, hc⟩
    | float d => exact Or.inr ⟨d, rfl, n, hn, hc⟩

theorem exists_number_of_writes {v : Value} (h : r.Writes v ∨ r.WritesDouble v) :
    ∃ x, v = .number x := by
  obtain ⟨n, rfl, _⟩ | ⟨d, rfl, _⟩ := h
  · exact ⟨.int n, rfl⟩
  · exact ⟨.float d, rfl⟩

theorem passesIff_schema (hr : r.Short) (v : Value) :
    r.schema.PassesIff v (r.Writes v ∨ r.WritesDouble v) := by
  by_cases hv : ∃ x, v = .number x
  · obtain ⟨x, rfl⟩ := hv
    exact (Schema.passesIff_number _ x).congr ((holds_iff hr x).trans (writes_number_iff x).symm)
  · refine ⟨fun h => absurd (exists_number_of_writes h) hv, fun _ p => ?_⟩
    cases v with
    | number x => exact absurd ⟨x, rfl⟩ hv
    | _ => exact ⟨_, rfl⟩

/-- The three endings of parsing a value into the integers of a range, each with the values that
come to it. -/
theorem parseAs_schema (hr : r.Short) (name : String) (v : Value) :
    ∃ result, r.schema.parseAs (.integer name r) v = pure result ∧
      (r.Writes v ∧ result = .ok v ∨
        r.WritesDouble v ∧ result = .error (.deserialize (.wrongType v name)) ∨
        ¬ (r.Writes v ∨ r.WritesDouble v) ∧ ∃ is, r.schema.parse v = pure (.error is) ∧
          result = .error (.validation is)) := by
  by_cases h : r.Writes v ∨ r.WritesDouble v
  · have hparse := Schema.parse_of_passes ((passesIff_schema hr v).passes h)
    rw [Schema.parseAs_of_accepted hparse]
    obtain ⟨n, rfl, hc⟩ | ⟨d, rfl, hd⟩ := h
    · rw [Target.decode_integer_int hc]
      exact ⟨_, rfl, Or.inl ⟨⟨n, rfl, hc⟩, rfl⟩⟩
    · rw [Target.decode_integer_float]
      exact ⟨_, rfl, Or.inr (Or.inl ⟨⟨d, rfl, hd⟩, rfl⟩)⟩
  · obtain ⟨is, his⟩ := Schema.exists_parse_of_rejects ((passesIff_schema hr v).rejects h)
    exact ⟨_, Schema.parseAs_of_refused his _, Or.inr (Or.inr ⟨h, is, his, rfl⟩)⟩

theorem Writes.not_writesDouble {v : Value} (h : r.Writes v) : ¬ r.WritesDouble v := by
  obtain ⟨n, rfl, _⟩ := h
  rintro ⟨d, hd, _⟩
  cases hd

end IntRange

/-- What parsing into the words of some number of bits ends with. -/
structure ParsesWords (bits : Nat) : Prop where
  ok_iff : ∀ v out : Value,
    (IntRange.unsigned bits).schema.parseAs (.unsigned bits) v = pure (.ok out) ↔
      (IntRange.unsigned bits).Writes v ∧ out = v
  deserialize_iff : ∀ (v : Value) (e : DecodeError),
    (IntRange.unsigned bits).schema.parseAs (.unsigned bits) v = pure (.error (.deserialize e)) ↔
      (IntRange.unsigned bits).WritesDouble v ∧ e = .wrongType v s!"u{bits}"
  validation : ∀ v : Value,
    ¬ ((IntRange.unsigned bits).Writes v ∨ (IntRange.unsigned bits).WritesDouble v) →
      ∃ is, (IntRange.unsigned bits).schema.parse v = pure (.error is) ∧
        (IntRange.unsigned bits).schema.parseAs (.unsigned bits) v = pure (.error (.validation is))

/-- A value is parsed into words of at most 53 bits just when it is an integer that such a word
holds, and it is given back. The target refuses just the doubles that are such an integer. In all
other cases the error is the one of parsing without a target. -/
theorem words_parsed {bits : Nat} (hbits : bits ≤ 53) : ParsesWords bits := by
  have hends := IntRange.parseAs_schema (IntRange.short_unsigned hbits) s!"u{bits}"
  refine ⟨fun v out => ?_, fun v e => ?_, fun v hn => ?_⟩
  · obtain ⟨result, hresult, hcase⟩ := hends v
    rw [Target.unsigned, hresult, Run.pure_inj]
    obtain ⟨hw, rfl⟩ | ⟨hd, rfl⟩ | ⟨hn, is, _, rfl⟩ := hcase
    · rw [Except.ok.injEq, eq_comm]
      exact (and_iff_right hw).symm
    · exact iff_of_false (fun h => by cases h) fun h => h.1.not_writesDouble hd
    · exact iff_of_false (fun h => by cases h) fun h => hn (Or.inl h.1)
  · obtain ⟨result, hresult, hcase⟩ := hends v
    rw [Target.unsigned, hresult, Run.pure_inj]
    obtain ⟨hw, rfl⟩ | ⟨hd, rfl⟩ | ⟨hn, is, _, rfl⟩ := hcase
    · exact iff_of_false (fun h => by cases h) fun h => hw.not_writesDouble h.1
    · rw [Except.error.injEq, TypedError.deserialize.injEq, eq_comm]
      exact (and_iff_right hd).symm
    · exact iff_of_false (fun h => by cases h) fun h => hn (Or.inr h.1)
  · obtain ⟨result, hresult, hcase⟩ := hends v
    obtain ⟨hw, rfl⟩ | ⟨hd, rfl⟩ | ⟨_, is, his, rfl⟩ := hcase
    · exact absurd (Or.inl hw) hn
    · exact absurd (Or.inr hd) hn
    · exact ⟨is, his, hresult⟩

/-- The ends of bytes and of words of 32 bits, next to them, and a zero with a sign. -/
theorem words_parsed_ends :
    (IntRange.unsigned 8).schema.parseAs (.unsigned 8) (.int 255) = pure (.ok (.int 255)) ∧
      (IntRange.unsigned 8).schema.parseAs (.unsigned 8) (.number (.float (.zero true))) =
        pure (.error (.deserialize (.wrongType (.number (.float (.zero true))) "u8"))) ∧
      (∃ is, (IntRange.unsigned 8).schema.parseAs (.unsigned 8) (.int 256) =
        pure (.error (.validation is))) ∧
      (IntRange.unsigned 32).schema.parseAs (.unsigned 32) (.int (2 ^ 32 - 1)) =
        pure (.ok (.int (2 ^ 32 - 1))) ∧
      ∃ is, (IntRange.unsigned 32).schema.parseAs (.unsigned 32) (.int (2 ^ 64 - 1)) =
        pure (.error (.validation is)) := by
  have hbytes : ParsesWords 8 := words_parsed (by decide)
  have hwords : ParsesWords 32 := words_parsed (by decide)
  have hother {bits : Nat} {n : Int} (h : (IntRange.unsigned bits).contains n = false) :
      ¬ ((IntRange.unsigned bits).Writes (.int n) ∨
        (IntRange.unsigned bits).WritesDouble (.int n)) := by
    rintro (⟨m, hm, hc⟩ | ⟨d, hd, _⟩)
    · cases hm
      rw [h] at hc
      cases hc
    · cases hd
  have hzero : (Binary64.zero true).value = (0 : Int) := (zero_div _).trans Int.cast_zero.symm
  refine ⟨?_, ?_, ?_, ?_, ?_⟩
  · exact (hbytes.ok_iff _ _).mpr ⟨⟨255, rfl, by decide⟩, rfl⟩
  · exact (hbytes.deserialize_iff _ _).mpr ⟨⟨.zero true, rfl, 0, hzero, by decide⟩, rfl⟩
  · obtain ⟨is, _, h⟩ := hbytes.validation (.int 256) (hother (by decide))
    exact ⟨is, h⟩
  · exact (hwords.ok_iff _ _).mpr ⟨⟨2 ^ 32 - 1, rfl, by decide⟩, rfl⟩
  · obtain ⟨is, _, h⟩ := hwords.validation (.int (2 ^ 64 - 1)) (hother (by decide))
    exact ⟨is, h⟩

end Schemata
