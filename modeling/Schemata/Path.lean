import Schemata.Value

/-! # Paths into a value

A path is the list of object keys and array indices from the root of the input to a value inside
it.
-/
namespace Schemata

inductive Segment
  | key (name : String)
  | index (i : Nat)
deriving DecidableEq

namespace Segment

/-- A key as itself, an index in decimal. -/
def rendered : Segment → String
  | .key name => name
  | .index i => toString i

def toValue : Segment → Value
  | .key name => .string name
  | .index i => .int i

/-- How a segment is displayed after another one. -/
def following : Segment → String
  | .key name => "." ++ name
  | .index i => "[" ++ toString i ++ "]"

theorem toList_rendered_index (i : Nat) : (index i).rendered.toList = Nat.toDigits 10 i :=
  Nat.toList_repr

theorem index_eq_of_rendered_eq {i j : Nat} (h : (index i).rendered = (index j).rendered) :
    i = j := by
  have hd : Nat.toDigits 10 i = Nat.toDigits 10 j := String.ofList_injective h
  have hn := congrArg (Nat.ofDigitChars 10 · 0) hd
  simpa only [Nat.ofDigitChars_ten_toDigits] using hn

theorem isDigit_of_mem_rendered {i : Nat} {c : Char} (h : c ∈ (index i).rendered.toList) :
    c.isDigit = true := by
  rw [toList_rendered_index] at h
  exact Nat.isDigit_of_mem_toDigits (by decide) (by decide) h

end Segment

abbrev Path := List Segment

namespace Path

def root : Path := []

def key (path : Path) (name : String) : Path := path ++ [.key name]

def index (path : Path) (i : Nat) : Path := path ++ [.index i]

/-- Keys are joined by dots and indices stand in brackets; no dot stands before a leading key. -/
def display : Path → String
  | .key name :: rest => name ++ String.join (rest.map Segment.following)
  | path => String.join (path.map Segment.following)

def rendered (path : Path) : List String := path.map Segment.rendered

def toValue (path : Path) : Value := .array (path.map Segment.toValue)

end Path
end Schemata
