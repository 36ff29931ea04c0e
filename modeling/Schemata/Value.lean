import Schemata.Entries
import Schemata.Number.Shortest

/-! # Values

Decoded data: scalars, arrays, and objects whose entries keep their order. A number is an integer
or a double, and the two representations of one quantity are different values. Two equalities are
used: `same` compares quantities, `equal` also compares representations; both ignore the order of
entries.
-/
namespace Schemata

inductive Number
  | int (n : Int)
  | float (x : Binary64)
deriving DecidableEq

namespace Number

/-- The nearest double. -/
def toDouble : Number → Extended
  | .int n => .ofInt n
  | .float x => .finite x

def isInteger : Number → Bool
  | .int _ => true
  | .float x => x.isInteger

/-- Integers are compared exactly, all else as doubles. -/
def same : Number → Number → Bool
  | .int n, .int m => n == m
  | x, y => x.toDouble.same y.toDouble

/-- Numbers of different representation differ. -/
def equal : Number → Number → Bool
  | .int n, .int m => n == m
  | .float x, .float y => x.same y
  | _, _ => false

def text : Number → String
  | .int n => toString n
  | .float x => x.text

end Number

inductive Value
  | null
  | bool (b : Bool)
  | number (n : Number)
  | string (s : String)
  | array (items : List Value)
  | object (entries : List (String × Value))
deriving Inhabited

namespace Value

def int (n : Int) : Value := .number (.int n)

mutual
/-- Equality of values up to the order of entries, given an equality of numbers. -/
def agree (numbers : Number → Number → Bool) : Value → Value → Bool
  | .null, .null => true
  | .bool a, .bool b => a == b
  | .number a, .number b => numbers a b
  | .string a, .string b => a == b
  | .array xs, .array ys => agreeItems numbers xs ys
  | .object es, .object fs => es.length == fs.length && agreeEntries numbers es fs
  | _, _ => false

def agreeItems (numbers : Number → Number → Bool) : List Value → List Value → Bool
  | [], [] => true
  | x :: xs, y :: ys => agree numbers x y && agreeItems numbers xs ys
  | _, _ => false

/-- Every entry agrees with the entry of its name. -/
def agreeEntries (numbers : Number → Number → Bool) :
    List (String × Value) → List (String × Value) → Bool
  | [], _ => true
  | (name, x) :: rest, fs =>
    (match fs.lookup name with
      | some y => agree numbers x y
      | none => false) && agreeEntries numbers rest fs
end

/-- The same quantity throughout: `1` and `1.0` are the same. -/
def same : Value → Value → Bool := agree Number.same

/-- The same quantity in the same representation throughout. -/
def equal : Value → Value → Bool := agree Number.equal

/-- No object in the value names an entry twice. -/
inductive Distinct : Value → Prop
  | null : Distinct .null
  | bool (b : Bool) : Distinct (.bool b)
  | number (n : Number) : Distinct (.number n)
  | string (s : String) : Distinct (.string s)
  | array {items : List Value} (each : ∀ v ∈ items, Distinct v) : Distinct (.array items)
  | object {entries : List (String × Value)} (names : Entries.Distinct entries)
    (each : ∀ e ∈ entries, Distinct e.2) : Distinct (.object entries)

theorem Distinct.names {entries : List (String × Value)}
    (h : (Value.object entries).Distinct) : Entries.Distinct entries := by
  cases h with
  | object names _ => exact names

theorem Distinct.item {items : List Value} (h : (Value.array items).Distinct) :
    ∀ v ∈ items, v.Distinct := by
  cases h with
  | array each => exact each

theorem Distinct.entry {entries : List (String × Value)}
    (h : (Value.object entries).Distinct) : ∀ e ∈ entries, e.2.Distinct := by
  cases h with
  | object _ each => exact each

/-- The value under a name, when this is an object that has one. -/
def field? : Value → String → Option Value
  | .object entries, name => entries.lookup name
  | _, _ => none

end Value

inductive Kind
  | undefined
  | null
  | boolean
  | number
  | string
  | array
  | object
deriving DecidableEq

namespace Kind

/-- An absent input has a kind of its own. -/
def of : Option Value → Kind
  | none => .undefined
  | some .null => .null
  | some (.bool _) => .boolean
  | some (.number _) => .number
  | some (.string _) => .string
  | some (.array _) => .array
  | some (.object _) => .object

def name : Kind → String
  | .undefined => "undefined"
  | .null => "null"
  | .boolean => "boolean"
  | .number => "number"
  | .string => "string"
  | .array => "array"
  | .object => "object"

theorem of_eq_undefined_iff {x : Option Value} : Kind.of x = .undefined ↔ x = none := by
  constructor
  · intro h
    match x with
    | none => rfl
    | some .null | some (.bool _) | some (.number _) | some (.string _) | some (.array _)
    | some (.object _) => cases h
  · rintro rfl
    rfl

theorem of_eq_null_iff {x : Option Value} : Kind.of x = .null ↔ x = some .null := by
  constructor
  · intro h
    match x with
    | some .null => rfl
    | none | some (.bool _) | some (.number _) | some (.string _) | some (.array _)
    | some (.object _) => cases h
  · rintro rfl
    rfl

end Kind
end Schemata
