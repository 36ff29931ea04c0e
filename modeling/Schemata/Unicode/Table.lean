/-! # Tables of code points

A partition of the code points is written as the first code point of each run with the label of the
run, and a set as the code points where membership begins or ends. Numbers are hexadecimal in lower
case, so a label starts with a capital letter.
-/
namespace Schemata.Unicode

def hexDigitValue? (c : Char) : Option Nat :=
  if '0' ≤ c ∧ c ≤ '9' then some (c.toNat - '0'.toNat)
  else if 'a' ≤ c ∧ c ≤ 'f' then some (c.toNat - 'a'.toNat + 10)
  else none

/-- A table is broken into words by blanks and line ends. -/
def isBreak (c : Char) : Bool := c == ' ' || c == '\n'

private def wordsFrom (word : List Char) : List Char → List String
  | [] => [String.ofList word.reverse]
  | c :: cs =>
    if isBreak c then String.ofList word.reverse :: wordsFrom [] cs else wordsFrom (c :: word) cs

def words (text : String) : List String := wordsFrom [] text.toList

/-- How many of the ascending bounds are at most `n`, given that the count is in `low..high`. -/
def countUpTo (bounds : Array Nat) (n low high : Nat) : Nat :=
  if low < high then
    let middle := (low + high) / 2
    if bounds.getD middle 0 ≤ n then countUpTo bounds n (middle + 1) high
    else countUpTo bounds n low middle
  else low
termination_by high - low

structure CodeSet where
  bounds : Array Nat

namespace CodeSet

/-- A code point is a member when an odd number of bounds are at most it. -/
def contains (s : CodeSet) (n : Nat) : Bool := countUpTo s.bounds n 0 s.bounds.size % 2 == 1

private def read (state : Array Nat × Nat) (c : Char) : Array Nat × Nat :=
  match hexDigitValue? c with
  | some d => (state.1, 16 * state.2 + d)
  | none => (state.1.push state.2, 0)

def ofText (text : String) : CodeSet :=
  let (bounds, last) := text.foldl read (#[], 0)
  ⟨bounds.push last⟩

end CodeSet

structure Partition where
  bounds : Array Nat
  labels : Array String

namespace Partition

/-- The label of the run that holds a code point. -/
def label (p : Partition) (n : Nat) : String :=
  p.labels.getD (countUpTo p.bounds n 0 p.bounds.size - 1) ""

private structure Reading where
  bounds : Array Nat
  labels : Array String
  code : Nat
  word : String

private def Reading.close (r : Reading) : Reading :=
  ⟨r.bounds.push r.code, r.labels.push r.word, 0, ""⟩

private def Reading.step (r : Reading) (c : Char) : Reading :=
  if isBreak c then r.close
  else if r.word.isEmpty then
    match hexDigitValue? c with
    | some d => { r with code := 16 * r.code + d }
    | none => { r with word := r.word.push c }
  else { r with word := r.word.push c }

def ofText (text : String) : Partition :=
  let r := (text.foldl Reading.step ⟨#[], #[], 0, ""⟩).close
  ⟨r.bounds, r.labels⟩

end Partition
end Schemata.Unicode
