import Schemata.Pattern.Flags
import Schemata.Unicode.WhiteSpace

/-! # Fixed formats

The expressions of e-mail addresses and of universally unique identifiers.
-/
namespace Schemata.Pattern

def only (c : Char) : Expr := .letter (CharSet.single c)

/-- Anything but white space and the at sign. -/
def mailChar : CharSet := ((CharSet.single '@').union Unicode.isWhiteSpace).compl

/-- A local part, an at sign, and a host part with a point inside it. -/
def mailAddress : Expr :=
  .concat [.edge textStart, Regex.plus (.letter mailChar), only '@', Regex.plus (.letter mailChar),
    only '.', Regex.plus (.letter mailChar), .edge textEnd]

/-- Sets of an identifier are closed under a change of case. -/
def anyCase (first last : Char) : CharSet := (CharSet.range first last).foldCase

def hexChar : Expr :=
  .letter ((CharSet.range '0' '9').union (CharSet.range 'a' 'f')).foldCase

def hyphen : Expr := .letter (CharSet.single '-').foldCase

def zeros (n : Nat) : Expr := Regex.times (.letter (anyCase '0' '0')) n

/-- An identifier of version 1 to 5 and of the usual variant. -/
def versioned : Expr :=
  .concat [hexChar.times 8, hyphen, hexChar.times 4, hyphen, .letter (anyCase '1' '5'),
    hexChar.times 3, hyphen,
    .letter ((CharSet.range '8' '9').union (CharSet.range 'a' 'b')).foldCase, hexChar.times 3,
    hyphen, hexChar.times 12]

/-- The identifier of zeros has no version. -/
def nil : Expr :=
  .concat [zeros 8, hyphen, zeros 4, hyphen, zeros 4, hyphen, zeros 4, hyphen, zeros 12]

def uniqueIdentifier : Expr := .concat [.edge textStart, .alt versioned nil, .edge textEnd]

end Schemata.Pattern
