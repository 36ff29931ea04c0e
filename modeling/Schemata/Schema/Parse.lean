import Schemata.Schema

/-! # Parsing

Parsing validates at the root. A present input gives a value, null standing for none; the safe form
turns a fault into a failure with one issue.
-/
namespace Schemata

inductive ParseResult
  | success (value : Value)
  | failure (issues : Issues)

namespace ParseResult

def toValue : ParseResult → Value
  | .success value => .object [("success", .bool true), ("data", value)]
  | .failure is => .object [("success", .bool false), ("error", is.errorValue)]

def isSuccess : ParseResult → Bool
  | .success _ => true
  | .failure _ => false

def toExcept : ParseResult → Except Issues Value
  | .success value => .ok value
  | .failure is => .error is

def ofExcept : Except Issues Value → ParseResult
  | .ok value => .success value
  | .error is => .failure is

end ParseResult

/-- The issues of a run that a fault ended. What was found before it is dropped. -/
def Fault.issues (f : Fault) : Issues :=
  .single ⟨Path.root, "An unknown error occurred: " ++ f.text, .unknownError, none, none⟩

namespace Schema

def parseInput (s : Schema) (input : Option Value) : Run Verdict := s.validate input Path.root

def parse (s : Schema) (value : Value) : Run (Except Issues Value) := do
  match ← s.parseInput (some value) with
  | .ok out => pure (.ok (out.getD .null))
  | .error is => pure (.error is)

def safeParse (s : Schema) (value : Value) : Run ParseResult := do
  match ← (s.parse value).guard with
  | .ok result => pure (.ofExcept result)
  | .error f => pure (.failure f.issues)

end Schema
end Schemata
