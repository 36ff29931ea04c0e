import Schemata.Number.Rounding

/-! # Finite double precision numbers and their extension

A finite double is stored exactly, as a sign and a canonical magnitude; zero keeps its sign. Every
such number is a whole number of quanta, so order and equality are those of integers. `Extended`
adds the infinities and the one value that is not a number, which compares to nothing.
-/
namespace Schemata

structure Binary64 where
  negative : Bool
  magnitude : Magnitude
  canonical : magnitude.Canonical 53
  bounded : magnitude.scale ≤ 2045

instance (m : Magnitude) (p : Nat) : Decidable (m.Canonical p) :=
  inferInstanceAs (Decidable (_ ∧ (_ ∨ _)))

namespace Binary64

@[ext] theorem ext {x y : Binary64} (hn : x.negative = y.negative)
    (hm : x.magnitude = y.magnitude) : x = y := by
  cases x; cases y; simp_all

instance : DecidableEq Binary64 := fun x y =>
  if h : x.negative = y.negative ∧ x.magnitude = y.magnitude then isTrue (ext h.1 h.2)
  else isFalse fun he => h (he ▸ ⟨rfl, rfl⟩)

def zero (negative : Bool) : Binary64 := ⟨negative, ⟨0, 0⟩, by decide, by decide⟩

/-- The value in quanta, of which `unit` make one. -/
def quanta (x : Binary64) : Int :=
  if x.negative then -(x.magnitude.quanta : Int) else x.magnitude.quanta

/-- The quanta of the integer one. -/
def unit : Int := (1 <<< 1074 : Nat)

/-- An integer in quanta, by its sign and its magnitude. -/
theorem mul_unit (n : Int) : n * unit =
    if n < 0 then -((n.natAbs * 1 <<< BinaryFormat.double.fraction : Nat) : Int)
    else (n.natAbs * 1 <<< BinaryFormat.double.fraction : Nat) := by
  change n * ((1 <<< BinaryFormat.double.fraction : Nat) : Int) = _
  rw [Int.natCast_mul]
  generalize ((1 <<< BinaryFormat.double.fraction : Nat) : Int) = unit
  split
  · rw [← Int.neg_mul]
    congr 1
    omega
  · congr 1
    omega

def isInteger (x : Binary64) : Bool := x.quanta % unit == 0

/-- Equality of values: the two zeros are equal. -/
def same (x y : Binary64) : Bool := x.quanta == y.quanta

def less (x y : Binary64) : Bool := decide (x.quanta < y.quanta)

end Binary64

/-- A double that may also be infinite or not a number. -/
inductive Extended
  | notANumber
  | infinite (negative : Bool)
  | finite (x : Binary64)
deriving DecidableEq

namespace Extended

/-- The double nearest to a signed ratio; a magnitude beyond the format is infinite. -/
def ofRatio (negative : Bool) (num den : Nat) : Extended :=
  let m := BinaryFormat.double.round num den
  if h : m.scale ≤ BinaryFormat.double.topScale then
    .finite ⟨negative, m, BinaryFormat.double.round_canonical (by decide) num den, h⟩
  else .infinite negative

def ofInt (n : Int) : Extended := ofRatio (decide (n < 0)) n.natAbs 1

theorem finite_of_ofInt {n : Int} {x : Binary64} (h : ofInt n = .finite x) :
    x.negative = decide (n < 0) ∧ x.magnitude = BinaryFormat.double.round n.natAbs 1 := by
  simp only [ofInt, ofRatio] at h
  split at h
  · cases h
    exact ⟨rfl, rfl⟩
  · cases h

theorem quanta_of_ofInt {n : Int} {x : Binary64} (h : ofInt n = .finite x) :
    x.quanta = if n < 0 then -((BinaryFormat.double.round n.natAbs 1).quanta : Int)
      else (BinaryFormat.double.round n.natAbs 1).quanta := by
  obtain ⟨hs, hm⟩ := finite_of_ofInt h
  simp only [Binary64.quanta, hs, hm, decide_eq_true_eq]

theorem exists_ofInt_of_scale_le {n : Int}
    (h : (BinaryFormat.double.round n.natAbs 1).scale ≤ BinaryFormat.double.topScale) :
    ∃ x, ofInt n = .finite x :=
  ⟨_, dif_pos h⟩

/-- The integers of at most 53 bits are doubles, and so is the next one. -/
theorem ofInt_of_natAbs_le {n : Int} (h : n.natAbs ≤ 1 <<< 53) :
    ∃ x, ofInt n = .finite x ∧ x.quanta = n * Binary64.unit := by
  obtain ⟨hquanta, hscale⟩ := BinaryFormat.double.round_of_le (by decide) h
  obtain ⟨x, hx⟩ := exists_ofInt_of_scale_le (Nat.le_trans hscale (by decide))
  exact ⟨x, hx, by rw [quanta_of_ofInt hx, hquanta, Binary64.mul_unit]⟩

/-- The single precision number nearest to a signed ratio, as a double. -/
def ofRatioSingle (negative : Bool) (num den : Nat) : Extended :=
  let m := BinaryFormat.single.round num den
  if m.scale ≤ BinaryFormat.single.topScale then
    ofRatio negative m.quanta (1 <<< BinaryFormat.single.fraction)
  else .infinite negative

def less : Extended → Extended → Bool
  | .notANumber, _ | _, .notANumber => false
  | .finite x, .finite y => x.less y
  | .infinite negative, .finite _ => negative
  | .finite _, .infinite negative => !negative
  | .infinite negative, .infinite negative' => negative && !negative'

def same : Extended → Extended → Bool
  | .finite x, .finite y => x.same y
  | .infinite negative, .infinite negative' => negative == negative'
  | _, _ => false

def zero : Extended := .finite (.zero false)

end Extended
end Schemata
