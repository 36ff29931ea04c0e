import Schemata.Path
import Schemata.Value.Text

/-! # Issues

One issue is one violation: where it is, what kind it is, and what was found and wanted there. A
failure carries a non-empty list of them, in the order in which they were found.
-/
namespace Schemata

inductive IssueCode
  | invalidType
  | tooSmall
  | tooBig
  | invalidString
  | invalidLiteral
  | invalidEnumValue
  | unrecognizedKeys
  | invalidUnion
  | custom
  | unknownError
deriving DecidableEq

namespace IssueCode

def all : List IssueCode :=
  [.invalidType, .tooSmall, .tooBig, .invalidString, .invalidLiteral, .invalidEnumValue,
    .unrecognizedKeys, .invalidUnion, .custom, .unknownError]

def tag : IssueCode → String
  | .invalidType => "invalid_type"
  | .tooSmall => "too_small"
  | .tooBig => "too_big"
  | .invalidString => "invalid_string"
  | .invalidLiteral => "invalid_literal"
  | .invalidEnumValue => "invalid_enum_value"
  | .unrecognizedKeys => "unrecognized_keys"
  | .invalidUnion => "invalid_union"
  | .custom => "custom"
  | .unknownError => "unknown_error"

def ofTag? (tag : String) : Option IssueCode := all.find? fun code => code.tag == tag

end IssueCode

structure Issue where
  path : Path
  message : String
  code : IssueCode
  received : Option String
  expected : Option String
deriving DecidableEq

namespace Issue

/-- The issue of a callback's refusal: it says nothing of what was found or wanted. -/
def custom (path : Path) (message : String) : Issue := ⟨path, message, .custom, none, none⟩

def display (i : Issue) : String :=
  (if i.path.isEmpty then "(root)" else i.path.display) ++ ": " ++ i.message ++
    (match i.expected with
      | some text => " (expected: " ++ text ++ ")"
      | none => "") ++
    (match i.received with
      | some text => " (received: " ++ text ++ ")"
      | none => "")

private def descriptor (name : String) : Option String → List (String × Value)
  | some text => [(name, .string text)]
  | none => []

def toValue (i : Issue) : Value :=
  .object <|
    [("path", i.path.toValue), ("message", .string i.message), ("code", .string i.code.tag)] ++
      descriptor "received" i.received ++ descriptor "expected" i.expected

end Issue

/-- A non-empty list of issues. -/
structure Issues where
  first : Issue
  rest : List Issue
deriving DecidableEq

namespace Issues

def single (issue : Issue) : Issues := ⟨issue, []⟩

def ofList? : List Issue → Option Issues
  | [] => none
  | first :: rest => some ⟨first, rest⟩

def toList (is : Issues) : List Issue := is.first :: is.rest

def length (is : Issues) : Nat := is.toList.length

instance : Append Issues := ⟨fun is js => ⟨is.first, is.rest ++ js.toList⟩⟩

def atPath (is : Issues) (path : Path) : List Issue := is.toList.filter fun i => i.path == path

def withCode (is : Issues) (code : IssueCode) : List Issue :=
  is.toList.filter fun i => i.code == code

/-- A count, then one numbered line for each issue. -/
def display (is : Issues) : String :=
  s!"validation failed with {is.length} issue(s):\n" ++
    String.join (is.toList.zipIdx.map fun (i, n) => s!"  {n + 1}. " ++ i.display ++ "\n")

def toValue (is : Issues) : Value := .array (is.toList.map Issue.toValue)

/-- The written form of a whole failure. -/
def errorValue (is : Issues) : Value := .object [("issues", is.toValue)]

@[simp] theorem toList_append (is js : Issues) : (is ++ js).toList = is.toList ++ js.toList := rfl

@[simp] theorem toList_single (i : Issue) : (single i).toList = [i] := rfl

@[simp] theorem toList_ne_nil (is : Issues) : is.toList ≠ [] := by simp [toList]

end Issues
end Schemata
