import Schemata.Unicode.CaseFold

/-! # Regular expressions and where they lead

An expression reads a text from a position to a position. Sets of positions are bit sets, so that
one pass over the expression leads a whole set of starts to the set of all ends, and a text matches
when the set of all its positions leads anywhere. Letters and edges of the expression are first
replaced by the positions at which they hold in the text.
-/
namespace Schemata

/-- A set of characters. -/
abbrev CharSet := Char → Bool

namespace CharSet

def single (c : Char) : CharSet := fun d => d == c

def range (first last : Char) : CharSet := fun c => first ≤ c && c ≤ last

def union (s t : CharSet) : CharSet := fun c => s c || t c

def inter (s t : CharSet) : CharSet := fun c => s c && t c

def diff (s t : CharSet) : CharSet := fun c => s c && !t c

def symmDiff (s t : CharSet) : CharSet := fun c => s c != t c

def compl (s : CharSet) : CharSet := fun c => !s c

/-- The set closed under a change of case. -/
def foldCase (s : CharSet) : CharSet := fun c => (Unicode.caseOrbit c).any s

end CharSet

/-- A condition on the characters before and after a position, either of which may be missing. -/
abbrev Edge := Option Char → Option Char → Bool

/-- Regular expressions over letters of one type and edges of another. A bounded or unbounded
number of further repetitions follows the least one. -/
inductive Regex (Letter Edge : Type)
  | empty
  | letter (l : Letter)
  | edge (e : Edge)
  | seq (r s : Regex Letter Edge)
  | alt (r s : Regex Letter Edge)
  | loop (r : Regex Letter Edge) (least : Nat) (more : Option Nat)

namespace Regex
variable {L E L' E' : Type}

def map (f : L → L') (g : E → E') : Regex L E → Regex L' E'
  | .empty => .empty
  | .letter l => .letter (f l)
  | .edge e => .edge (g e)
  | .seq r s => .seq (r.map f g) (s.map f g)
  | .alt r s => .alt (r.map f g) (s.map f g)
  | .loop r least more => .loop (r.map f g) least more

def plus (r : Regex L E) : Regex L E := .loop r 1 none

def times (r : Regex L E) (n : Nat) : Regex L E := .loop r n (some 0)

/-- Expressions one after the other. -/
def concat : List (Regex L E) → Regex L E
  | [] => .empty
  | [r] => r
  | r :: rs => .seq r (concat rs)

/-- Apply a step so many times, or until nothing is left. -/
def repeated (step : Nat → Nat) : Nat → Nat → Nat
  | 0, s => s
  | n + 1, s => if s = 0 then 0 else repeated step n (step s)

/-- Add what a step reaches so many times, or until nothing is added. -/
def spread (step : Nat → Nat) : Nat → Nat → Nat
  | 0, s => s
  | n + 1, s =>
    let next := s ||| step s
    if next = s then s else spread step n next

/-- The positions that a set of positions leads to, in a text of so many characters. -/
def advance (size : Nat) : Regex Nat Nat → Nat → Nat
  | .empty, s => s
  | .letter places, s => (s &&& places) <<< 1
  | .edge places, s => s &&& places
  | .seq r t, s => t.advance size (r.advance size s)
  | .alt r t, s => r.advance size s ||| t.advance size s
  | .loop r least more, s =>
    spread (r.advance size) (more.getD size) (repeated (r.advance size) least s)

/-- The positions at which a letter stands. -/
def letterPositions (set : CharSet) : List Char → Nat
  | [] => 0
  | c :: cs => (letterPositions set cs) <<< 1 ||| (set c).toNat

/-- The positions at which an edge holds, the character before the text being `before`. -/
def edgePositions (e : Schemata.Edge) (before : Option Char) : List Char → Nat
  | [] => (e before none).toNat
  | c :: cs => (edgePositions e (some c) cs) <<< 1 ||| (e before (some c)).toNat

/-- The ends of all matches, wherever they start. -/
def ends (r : Regex CharSet Schemata.Edge) (text : List Char) : Nat :=
  (r.map (letterPositions · text) (edgePositions · none text)).advance text.length
    (1 <<< (text.length + 1) - 1)

/-- Does the expression match somewhere in the text? -/
def isMatch (r : Regex CharSet Schemata.Edge) (text : String) : Bool := r.ends text.toList != 0

end Regex
end Schemata
