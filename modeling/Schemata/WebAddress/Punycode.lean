/-! # Punycode

A label with characters beyond ASCII is written as its ASCII characters, a hyphen, and numbers that
say where the others are inserted, in ascending order. Numbers have variable length, with
thresholds that adapt to the size of the numbers before. All of them fit a 32-bit word.
-/
namespace Schemata.WebAddress.Punycode

def digit? (c : Char) : Option Nat :=
  if 'a' ≤ c ∧ c ≤ 'z' then some (c.toNat - 'a'.toNat)
  else if 'A' ≤ c ∧ c ≤ 'Z' then some (c.toNat - 'A'.toNat)
  else if '0' ≤ c ∧ c ≤ '9' then some (c.toNat - '0'.toNat + 26)
  else none

def threshold (position bias : Nat) : Nat :=
  if position ≤ bias then 1 else if bias + 26 ≤ position then 26 else position - bias

private def reduce (delta position : Nat) : Nat × Nat :=
  if 455 < delta then reduce (delta / 35) (position + 36) else (delta, position)
termination_by delta
decreasing_by exact Nat.div_lt_self (by omega) (by omega)

/-- The bias after a number `delta`, with `count` characters written. -/
def adapt (delta count : Nat) (first : Bool) : Nat :=
  let delta := if first then delta / 700 else delta / 2
  let (delta, position) := reduce (delta + delta / count) 0
  position + 36 * delta / (delta + 38)

private def wordLimit : Nat := 1 <<< 32

/-- Read one number and add it to `sum`; the digit read next counts `weight` times. -/
def number? (bias position weight sum : Nat) : List Char → Option (Nat × List Char)
  | [] => none
  | c :: cs => do
    let d ← digit? c
    let sum := sum + d * weight
    let t := threshold position bias
    if wordLimit ≤ sum then none
    else if d < t then some (sum, cs)
    else if wordLimit ≤ weight * (36 - t) then none
    else number? bias (position + 36) (weight * (36 - t)) sum cs

/-- Insert the characters that the numbers tell. The fuel bounds the numbers, none of which is
empty. -/
def insertAll : Nat → List Char → Nat → Nat → Nat → List Char → Option (List Char)
  | _, out, _, _, _, [] => some out
  | 0, _, _, _, _, _ :: _ => none
  | fuel + 1, out, code, place, bias, cs => do
    let (sum, rest) ← number? bias 36 1 place cs
    let count := out.length + 1
    let code := code + sum / count
    let place' := sum % count
    if code.isValidChar then
      insertAll fuel (out.insertIdx place' (Char.ofNat code)) code (place' + 1)
        (adapt (sum - place) count (place == 0)) rest
    else none

/-- Split at the last hyphen; without one there are no ASCII characters. -/
private def splitLast (cs : List Char) : List Char × List Char :=
  match cs.reverse.dropWhile (· != '-') with
  | [] => ([], cs)
  | _ :: basic => (basic.reverse, (cs.reverse.takeWhile (· != '-')).reverse)

/-- The label that a text stands for, in lower case as far as it is ASCII. -/
def decode? (cs : List Char) : Option (List Char) :=
  let (basic, numbers) := splitLast cs
  if cs.all (·.toNat < 0x80) then
    insertAll numbers.length (basic.map Char.toLower) 0x80 0 72 numbers
  else none

end Schemata.WebAddress.Punycode
