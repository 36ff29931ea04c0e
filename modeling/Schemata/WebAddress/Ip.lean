import Schemata.Number.Decimal
import Schemata.Value.Reader

/-! # Numeric addresses

A version 4 address is one to four numbers, decimal, octal or hexadecimal, of which the last fills
the bytes that are left. A version 6 address is eight pieces of four hexadecimal digits, of which
one run of zeros may be left out and the last two may be written as four decimal bytes.
-/
namespace Schemata.WebAddress

/-! ## Version 4 -/

private def numberIn? (base : Nat) (digits : List Char) : Option Nat :=
  digits.foldl (fun n c => do
    let d ← Value.hexValue? c
    if d < base then return base * (← n) + d else none) (some 0)

/-- A part of an address; a number of any size is read. -/
def ipv4Number? (cs : List Char) : Option Nat :=
  match cs with
  | [] => none
  | '0' :: 'x' :: digits | '0' :: 'X' :: digits => numberIn? 16 digits
  | '0' :: c :: digits => numberIn? 8 (c :: digits)
  | digits => numberIn? 10 digits

/-- The labels without an empty one at the end. -/
private def dropLastEmpty (labels : List (List Char)) : List (List Char) :=
  if labels.getLast? == some [] then labels.dropLast else labels

/-- Does the last label look like a number? Then the host has to be an address. -/
def endsInNumber (labels : List (List Char)) : Bool :=
  match (dropLastEmpty labels).getLast? with
  | some last => !last.isEmpty && (last.all Char.isDigit || (ipv4Number? last).isSome)
  | none => false

def isIpv4 (labels : List (List Char)) : Bool :=
  let parts := dropLastEmpty labels
  match parts.mapM ipv4Number? with
  | none => false
  | some numbers =>
    match numbers.getLast? with
    | none => false
    | some last =>
      numbers.length ≤ 4 && numbers.dropLast.all (· < 256) &&
        last < 1 <<< (8 * (5 - numbers.length))

/-! ## Version 6 -/

/-- A decimal byte without leading zeros, and what follows. -/
private def byte? (cs : List Char) : Option (List Char) :=
  let digits := cs.takeWhile Char.isDigit
  if digits.isEmpty || (digits.length > 1 && digits.head? == some '0') ||
      255 < naturalOfDigits digits then none
  else some (cs.dropWhile Char.isDigit)

/-- Exactly so many bytes with points between them. -/
private def isBytes : Nat → List Char → Bool
  | 0, _ => false
  | n + 1, cs =>
    match byte? cs with
    | some [] => n == 0
    | some ('.' :: rest) => isBytes n rest
    | _ => false

private def isHexChar (c : Char) : Bool := (Value.hexValue? c).isSome

/-- Is the number of pieces right, zeros being left out or not? -/
private def isComplete (pieces : Nat) (compressed : Bool) : Bool := compressed || pieces == 8

/-- Read pieces from the place after a separator. A gap counts as a piece. -/
private def isPieces : Nat → Nat → Bool → List Char → Bool
  | _, pieces, compressed, [] => isComplete pieces compressed
  | 0, _, _, _ :: _ => false
  | fuel + 1, pieces, compressed, ':' :: rest =>
    pieces < 8 && !compressed && isPieces fuel (pieces + 1) true rest
  | fuel + 1, pieces, compressed, cs =>
    let digits := (cs.take 4).takeWhile isHexChar
    pieces < 8 &&
      match cs.drop digits.length with
      | [] => isComplete (pieces + 1) compressed
      | '.' :: _ =>
        !digits.isEmpty && pieces ≤ 6 && isBytes 4 cs && isComplete (pieces + 2) compressed
      | ':' :: rest => !rest.isEmpty && isPieces fuel (pieces + 1) compressed rest
      | _ => false

def isIpv6 (cs : List Char) : Bool :=
  2 ≤ cs.length &&
    match cs with
    | ':' :: ':' :: rest => isPieces cs.length 1 true rest
    | ':' :: _ => false
    | _ => isPieces cs.length 0 false cs

end Schemata.WebAddress
