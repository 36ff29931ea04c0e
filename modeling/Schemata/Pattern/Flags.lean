import Schemata.Pattern.Regex
import Schemata.Unicode.Property

/-! # Modes of a pattern

Modes decide what a piece of pattern text means: which characters a letter, a class or a dot stands
for, at which edges an anchor holds, and whether blanks in the pattern count. A set that could
match a part of a character is refused; that can only happen to a complement taken outside Unicode
mode.
-/
namespace Schemata.Pattern

abbrev Expr := Regex CharSet Edge

structure Flags where
  ignoreCase : Bool
  multiLine : Bool
  dotAll : Bool
  swapGreed : Bool
  unicode : Bool
  crlf : Bool
  extended : Bool

namespace Flags

def standard : Flags := ⟨false, false, false, false, true, false, false⟩

/-- Set the mode of a letter. -/
def set? (f : Flags) (letter : Char) (on : Bool) : Option Flags :=
  match letter with
  | 'i' => some { f with ignoreCase := on }
  | 'm' => some { f with multiLine := on }
  | 's' => some { f with dotAll := on }
  | 'U' => some { f with swapGreed := on }
  | 'u' => some { f with unicode := on }
  | 'R' => some { f with crlf := on }
  | 'x' => some { f with extended := on }
  | _ => none

private def skipFrom (comment : Bool) : List Char → List Char
  | [] => []
  | c :: cs =>
    if comment then skipFrom (c != '\n') cs
    else if Unicode.isWhiteSpace c then skipFrom false cs
    else if c = '#' then skipFrom true cs
    else c :: cs

/-- In extended mode, drop blanks and comments. -/
def skip (f : Flags) (cs : List Char) : List Char := if f.extended then skipFrom false cs else cs

end Flags

private def isAscii (c : Char) : Bool := c.toNat < 0x80

private def swapAsciiCase (c : Char) : Char := if c.isUpper then c.toLower else c.toUpper

def asciiRanges (ranges : List (Char × Char)) : CharSet := fun c =>
  ranges.any fun (first, last) => first ≤ c && c ≤ last

namespace CharSet

def asciiDigit : CharSet := asciiRanges [('0', '9')]
def asciiWord : CharSet := asciiRanges [('0', '9'), ('A', 'Z'), ('_', '_'), ('a', 'z')]
def asciiAlphanumeric : CharSet := asciiRanges [('0', '9'), ('A', 'Z'), ('a', 'z')]
def asciiSpace : CharSet := asciiRanges [('\t', '\r'), (' ', ' ')]

/-- Classes that a name between colons stands for. -/
def named? (name : String) : Option CharSet :=
  match name with
  | "alnum" => some asciiAlphanumeric
  | "alpha" => some (asciiRanges [('A', 'Z'), ('a', 'z')])
  | "ascii" => some (asciiRanges [('\x00', '\x7f')])
  | "blank" => some (asciiRanges [('\t', '\t'), (' ', ' ')])
  | "cntrl" => some (asciiRanges [('\x00', '\x1f'), ('\x7f', '\x7f')])
  | "digit" => some asciiDigit
  | "graph" => some (asciiRanges [('!', '~')])
  | "lower" => some (asciiRanges [('a', 'z')])
  | "print" => some (asciiRanges [(' ', '~')])
  | "punct" => some (asciiRanges [('!', '/'), (':', '@'), ('[', '\x60'), ('\x7b', '~')])
  | "space" => some asciiSpace
  | "upper" => some (asciiRanges [('A', 'Z')])
  | "word" => some asciiWord
  | "xdigit" => some (asciiRanges [('0', '9'), ('A', 'F'), ('a', 'f')])
  | _ => none

end CharSet

namespace Flags

/-- Close a set under a change of case, if the modes say so. -/
def fold (f : Flags) (s : CharSet) : CharSet :=
  if !f.ignoreCase then s
  else if f.unicode then s.foldCase
  else fun c => s c || (isAscii c && s (swapAsciiCase c))

def foldAndNegate (f : Flags) (negated : Bool) (s : CharSet) : CharSet :=
  if negated then (f.fold s).compl else f.fold s

/-- The class of `d`, `s` or `w`; these are closed under a change of case. -/
def shorthand? (f : Flags) (letter : Char) : Option CharSet :=
  match letter with
  | 'd' => some (if f.unicode then Unicode.isDecimalDigit else CharSet.asciiDigit)
  | 's' => some (if f.unicode then Unicode.isWhiteSpace else CharSet.asciiSpace)
  | 'w' => some (if f.unicode then Unicode.isWord else CharSet.asciiWord)
  | _ => none

/-- A set as a letter of an expression. Outside Unicode mode a set reaches all or none of the
characters beyond ASCII, and none is required. -/
def setLetter? (f : Flags) (s : CharSet) : Option Expr :=
  if f.unicode then some (.letter s) else if s '\u0080' then none else some (.letter s)

def dot? (f : Flags) : Option Expr :=
  if !f.unicode then none
  else if f.dotAll then some (.letter fun _ => true)
  else if f.crlf then some (.letter fun c => c != '\n' && c != '\r')
  else some (.letter fun c => c != '\n')

private def isWordChar (f : Flags) : Option Char → Bool
  | some c => if f.unicode then Unicode.isWord c else CharSet.asciiWord c
  | none => false

def lineStart (f : Flags) : Edge := fun before after =>
  before == none || (f.multiLine &&
    (before == some '\n' || (f.crlf && before == some '\r' && after != some '\n')))

def lineEnd (f : Flags) : Edge := fun before after =>
  after == none || (f.multiLine &&
    if f.crlf then after == some '\r' || (after == some '\n' && before != some '\r')
    else after == some '\n')

def wordBoundary (f : Flags) : Edge := fun before after => f.isWordChar before != f.isWordChar after
def wordStart (f : Flags) : Edge := fun before after => !f.isWordChar before && f.isWordChar after
def wordEnd (f : Flags) : Edge := fun before after => f.isWordChar before && !f.isWordChar after
def wordStartHalf (f : Flags) : Edge := fun before _ => !f.isWordChar before
def wordEndHalf (f : Flags) : Edge := fun _ after => !f.isWordChar after

end Flags

def textStart : Edge := fun before _ => before == none
def textEnd : Edge := fun _ after => after == none

end Schemata.Pattern
