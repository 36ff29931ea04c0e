import Schemata.Number.Binary64

/-! # Reading decimals

The numeral grammar shared by data and bounds, and the nearest double of a decimal. A decimal too
large or too small for the format is decided from its length, so that no power of ten is formed for
an exponent that cannot matter.
-/
namespace Schemata

/-- The number `digits * 10 ^ exponent` with a sign. -/
structure Decimal where
  negative : Bool
  digits : Nat
  exponent : Int
deriving DecidableEq

def digitValue (c : Char) : Nat := c.toNat - '0'.toNat

/-- The natural written by decimal digits. -/
def naturalOfDigits (cs : List Char) : Nat := cs.foldl (fun n c => 10 * n + digitValue c) 0

def decimalLength (n : Nat) : Nat := (Nat.toDigits 10 n).length

namespace Decimal

/-- The ratio of naturals that a decimal magnitude denotes. -/
def ratio (digits : Nat) (exponent : Int) : Nat × Nat :=
  if 0 ≤ exponent then (digits * Nat.pow 10 exponent.toNat, 1)
  else (digits, Nat.pow 10 (-exponent).toNat)

/-- A nonzero decimal of this order or more exceeds every format, and one of minus this order or
less rounds to zero in every format. -/
def decisiveOrder : Int := 400

private def round (f : Bool → Nat → Nat → Extended) (x : Decimal) : Extended :=
  let order := x.exponent + decimalLength x.digits
  if x.digits = 0 ∨ order ≤ -decisiveOrder then f x.negative 0 1
  else if order ≥ decisiveOrder then .infinite x.negative
  else
    let (num, den) := ratio x.digits x.exponent
    f x.negative num den

def toDouble (x : Decimal) : Extended := x.round Extended.ofRatio
def toSingle (x : Decimal) : Extended := x.round Extended.ofRatioSingle

/-- The parts of a numeral: whole digits, fraction digits and exponent, each absent if not written.
-/
structure Parts where
  whole : List Char
  fraction : Option (List Char)
  exponent : Option Int
  rest : List Char

private def sign : List Char → Bool × List Char
  | '-' :: cs => (true, cs)
  | '+' :: cs => (false, cs)
  | cs => (false, cs)

/-- An exponent after its letter: an optional sign and at least one digit. -/
private def exponent? (cs : List Char) : Option (Int × List Char) :=
  let (negative, cs) := sign cs
  let digits := cs.takeWhile Char.isDigit
  if digits.isEmpty then none
  else
    let n : Int := naturalOfDigits digits
    some (if negative then -n else n, cs.dropWhile Char.isDigit)

/-- Split an unsigned numeral from what follows it. A letter `e` with no exponent is an error. -/
def parts? (cs : List Char) : Option Parts :=
  let whole := cs.takeWhile Char.isDigit
  let (fraction, cs) := match cs.dropWhile Char.isDigit with
    | '.' :: cs => (some (cs.takeWhile Char.isDigit), cs.dropWhile Char.isDigit)
    | cs => (none, cs)
  match cs with
  | 'e' :: rest | 'E' :: rest =>
    match exponent? rest with
    | some (n, rest) => some ⟨whole, fraction, some n, rest⟩
    | none => none
  | _ => some ⟨whole, fraction, none, cs⟩

def Parts.decimal (p : Parts) (negative : Bool) : Decimal :=
  let fraction := p.fraction.getD []
  ⟨negative, naturalOfDigits (p.whole ++ fraction), p.exponent.getD 0 - fraction.length⟩

private def named? (negative : Bool) (name : String) : Option Extended :=
  if name = "inf" ∨ name = "infinity" then some (.infinite negative)
  else if name = "nan" then some .notANumber
  else none

/-- Read a bound: an optional sign, then a numeral with a digit on some side of its point, or the
name of a value that is not finite. -/
def readExtended? (round : Decimal → Extended) (text : String) : Option Extended :=
  let (negative, cs) := sign text.toList
  match named? negative (String.ofList cs).toLower with
  | some x => some x
  | none =>
    match parts? cs with
    | some p =>
      if p.rest.isEmpty && !(p.whole.isEmpty && (p.fraction.getD []).isEmpty) then
        some (round (p.decimal negative))
      else none
    | none => none

end Decimal
end Schemata
