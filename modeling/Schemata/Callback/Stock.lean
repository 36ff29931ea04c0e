import Schemata.Callback
import Schemata.Number.Range
import Schemata.Value.Text

/-! # A stock of callbacks

Common predicates, checks and mappers on values.
-/
namespace Schemata.Stock

/-! ## Integers -/

def word : IntRange := .signed 64

/-- The integer of a value that is one and fits a signed word. -/
def word? : Value → Option Int
  | .number (.int n) => if word.contains n then some n else none
  | _ => none

inductive NumeralError
  | empty
  | invalidDigit
  | tooLarge
  | tooSmall
deriving DecidableEq

def NumeralError.message : NumeralError → String
  | .empty => "cannot parse integer from empty string"
  | .invalidDigit => "invalid digit found in string"
  | .tooLarge => "number too large to fit in target type"
  | .tooSmall => "number too small to fit in target type"

/-- Read digits from the left. The first digit that is none or leaves the range ends the reading.
-/
def readDigits (range : IntRange) (negative : Bool) : Int → List Char → Except NumeralError Int
  | n, [] => .ok n
  | n, c :: cs =>
    if !c.isDigit then .error .invalidDigit
    else
      let d : Int := digitValue c
      let n := if negative then 10 * n - d else 10 * n + d
      if n < range.least then .error .tooSmall
      else if range.greatest < n then .error .tooLarge
      else readDigits range negative n cs

/-- An integer in a range, with an optional sign. A range without negative numbers has no minus
sign. -/
def readInteger (range : IntRange) (s : String) : Except NumeralError Int :=
  match s.toList with
  | [] => .error .empty
  | ['+'] | ['-'] => .error .invalidDigit
  | '+' :: cs => readDigits range false 0 cs
  | '-' :: cs =>
    if range.least < 0 then readDigits range true 0 cs else .error .invalidDigit
  | cs => readDigits range false 0 cs

/-! ## Predicates -/

def isEven (v : Value) : Bool :=
  match word? v with
  | some n => n % 2 == 0
  | none => false

def isGreater (bound : Extended) : Value → Bool
  | .number n => bound.less n.toDouble
  | _ => false

def hasChar (p : Char → Bool) : Value → Bool
  | .string s => s.toList.any p
  | _ => false

def hasKind (name : String) (v : Value) : Bool := (Kind.of (some v)).name == name

/-- The value under a key, null if there is none. -/
def fieldOrNull (key : String) (v : Value) : Value := (v.field? key).getD .null

def agreeOn (a b : String) (v : Value) : Bool := (fieldOrNull a v).equal (fieldOrNull b v)

/-! ## Checks -/

def refuseOdd (v : Value) : Response Unit :=
  match word? v with
  | none => .reject "not an integer"
  | some n => if n % 2 = 0 then .accept () else .reject (toString n ++ " is odd")

/-- Reject every value with its own text. -/
def echo (v : Value) : Response Unit := .reject v.text

/-! ## Mappers -/

/-- The characters of a value that is not a string are none. -/
def textOf : Value → String
  | .string s => s
  | _ => ""

def toInteger (range : IntRange) (v : Value) : Response Value :=
  match readInteger range (textOf v) with
  | .ok n => .accept (.int n)
  | .error e => .reject e.message

def asciiUpper (s : String) : String := s.map Char.toUpper

/-- Cut a text at each separator, from the left; `skip` characters are still those of the last one.
-/
private def cut (separator part : List Char) (skip : Nat) : List Char → List (List Char)
  | [] => [part.reverse]
  | c :: cs =>
    match skip with
    | skip + 1 => cut separator part skip cs
    | 0 =>
      if separator.isPrefixOf (c :: cs) then
        part.reverse :: cut separator [] (separator.length - 1) cs
      else cut separator (c :: part) 0 cs

/-- The parts between separators. The empty separator stands at both ends and between all
characters. -/
def split (separator s : String) : List String :=
  if separator.isEmpty then "" :: s.toList.map String.singleton ++ [""]
  else (cut separator.toList [] 0 s.toList).map String.ofList

def add (n : Int) (v : Value) : Response Value :=
  match word? v with
  | none => .reject "not an i64"
  | some m =>
    if word.contains (m + n) then .accept (.int (m + n)) else .reject "overflow"

end Schemata.Stock
