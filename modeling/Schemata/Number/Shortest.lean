import Schemata.Number.Decimal

/-! # The shortest decimal that reads back

For a growing number of digits the two neighbours of the value on that decimal grid are tried, and
the first grid with a neighbour that rounds to the value gives the digits; of two such neighbours
the nearer is taken. Layouts write the digits with or without an exponent.
-/
namespace Schemata

/-- Which of two equally near decimals is written. -/
inductive Tie
  | even
  | up
deriving DecidableEq

/-- A positive decimal, `0.d₁d₂… * 10 ^ point`, whose first and last digits are not zero. -/
structure Digits where
  digits : List Char
  point : Int

namespace Digits

private def ofNat (n : Nat) (exponent : Int) : Digits :=
  let written := Nat.toDigits 10 n
  ⟨(written.reverse.dropWhile (· == '0')).reverse, written.length + exponent⟩

/-- The greatest `e` with `10 ^ e ≤ num / den`, for a positive ratio. -/
def order (num den : Nat) : Int :=
  let guess : Int := (decimalLength num : Int) - decimalLength den
  let (n, d) := Decimal.ratio den guess
  if n ≤ num * d then guess else guess - 1

private def readsBack (m : Magnitude) (digits : Nat) (exponent : Int) : Bool :=
  let (num, den) := Decimal.ratio digits exponent
  BinaryFormat.double.round num den == m

/-- The neighbour of `m` on the grid of multiples of `10 ^ exponent` that reads back as `m`. -/
private def onGrid? (tie : Tie) (m : Magnitude) (num den : Nat) (exponent : Int) : Option Digits :=
  let (n, d) := Decimal.ratio 1 exponent
  let below := num * d / (den * n)
  let rest := num * d % (den * n)
  let low := readsBack m below exponent
  let high := rest != 0 && readsBack m (below + 1) exponent
  let nearerHigh := 2 * rest > den * n ||
    (2 * rest == den * n && (tie == .up || below % 2 == 1))
  if low && high then some (ofNat (if nearerHigh then below + 1 else below) exponent)
  else if low then some (ofNat below exponent)
  else if high then some (ofNat (below + 1) exponent)
  else none

/-- The shortest digits of a nonzero magnitude. Seventeen always suffice; all digits stand behind
them. -/
def shortest (tie : Tie) (m : Magnitude) : Digits :=
  let num := m.quanta
  let den := 1 <<< BinaryFormat.double.fraction
  let top := order num den
  ((List.range 17).findSome? fun (n : Nat) => onGrid? tie m num den (top - n)).getD
    (ofNat (num * Nat.pow 5 BinaryFormat.double.fraction) (-BinaryFormat.double.fraction))

private def zeros (n : Int) : List Char := List.replicate n.toNat '0'

/-- Positional layout, with no point after a whole number. -/
def positional (d : Digits) : List Char :=
  if d.point ≤ 0 then '0' :: '.' :: zeros (-d.point) ++ d.digits
  else
    let whole := d.digits.take d.point.toNat ++ zeros (d.point - d.digits.length)
    match d.digits.drop d.point.toNat with
    | [] => whole
    | fraction => whole ++ '.' :: fraction

/-- Layout with one digit before the point and a signed exponent of ten. -/
def scientific (d : Digits) : List Char :=
  let e := d.point - 1
  let lead := match d.digits with
    | [] => ['0']
    | [c] => [c]
    | c :: cs => c :: '.' :: cs
  lead ++ 'e' :: (if e < 0 then '-' else '+') :: Nat.toDigits 10 e.natAbs

end Digits

namespace Binary64

private def signed (x : Binary64) (cs : List Char) : String :=
  String.ofList (if x.negative then '-' :: cs else cs)

/-- Positional from `10 ^ -5` up to `10 ^ 16`, scientific elsewhere; a whole number keeps one zero
after its point, and a tie goes to the even digit. -/
def text (x : Binary64) : String :=
  x.signed <|
    if x.magnitude.significand = 0 then ['0', '.', '0']
    else
      let d := Digits.shortest .even x.magnitude
      if -5 < d.point ∧ d.point ≤ 16 then
        if d.digits.length ≤ d.point then d.positional ++ ['.', '0'] else d.positional
      else d.scientific

/-- Always positional, with no point after a whole number, and a tie goes up. -/
def plain (x : Binary64) : String :=
  x.signed <|
    if x.magnitude.significand = 0 then ['0'] else (Digits.shortest .up x.magnitude).positional

end Binary64

def Extended.plain : Extended → String
  | .notANumber => "NaN"
  | .infinite negative => if negative then "-inf" else "inf"
  | .finite x => x.plain

end Schemata
