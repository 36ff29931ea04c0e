/-! # Ranges of integers

The integers that words of a number of bits hold.
-/
namespace Schemata

/-- The integers from `least` to `greatest`. -/
structure IntRange where
  least : Int
  greatest : Int
deriving DecidableEq

namespace IntRange

def unsigned (bits : Nat) : IntRange := ⟨0, ((1 <<< bits : Nat) : Int) - 1⟩

def signed (bits : Nat) : IntRange :=
  ⟨-((1 <<< (bits - 1) : Nat) : Int), ((1 <<< (bits - 1) : Nat) : Int) - 1⟩

def contains (r : IntRange) (n : Int) : Bool := r.least ≤ n && n ≤ r.greatest

end IntRange
end Schemata
