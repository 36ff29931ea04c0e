import Schemata.Schema.Object

/-! # Building schemas

Base schemas, the ones that can fail to be built, and messages of one's own.
-/
namespace Schemata

inductive BuildError
  | emptyEnum
  | nonPrimitiveLiteral (kind : Kind)
  | malformedPattern
deriving DecidableEq

def BuildError.message : BuildError → String
  | .emptyEnum => "enum schema requires at least one value"
  | .nonPrimitiveLiteral kind => "literal schema requires a primitive value, got " ++ kind.name
  | .malformedPattern => "malformed pattern"

namespace Schema

def anyString : Schema := .string .none
def anyNumber : Schema := .number .none
def anyBoolean : Schema := .boolean .none
def arrayOf (element : Schema) : Schema := .array element .none
def anyOf (options : List Schema) : Schema := .union options .none

/-- A literal is a scalar. -/
def literal? (value : Value) : Except BuildError Schema :=
  match value with
  | .array _ => .error (.nonPrimitiveLiteral .array)
  | .object _ => .error (.nonPrimitiveLiteral .object)
  | value => .ok (.literal value none)

/-- There is something to choose. -/
def choice? (options : List String) : Except BuildError Schema :=
  if options.isEmpty then .error .emptyEnum else .ok (.choice options none)

/-- Add an option to a union. -/
def or? (s option : Schema) : Option Schema :=
  match s with
  | .union options message => some (.union (options ++ [option]) message)
  | _ => none

/-- Give a message to what was added last. -/
def error? (s : Schema) (message : String) : Option Schema :=
  match s with
  | .string rules => some (.string (rules.error message))
  | .number rules => some (.number (rules.error message))
  | .boolean _ => some (.boolean (some message))
  | .literal value _ => some (.literal value (some message))
  | .choice options _ => some (.choice options (some message))
  | .array element rules => some (.array element (rules.error message))
  | .object shape unknownKeys _ => some (.object shape unknownKeys (some message))
  | .union options _ => some (.union options (some message))
  | _ => none

/-- The schema inside a wrapper that decides on absent or null inputs. Its own construction is
over. -/
def unwrap? : Schema → Option Schema
  | .optional inner | .nullable inner | .withDefault inner _ => some (.boxed inner)
  | _ => none

/-- A schema that reports each input before it delegates. -/
def watched (id : String) (inner : Schema) (typeName : String) : Schema :=
  .custom typeName fun input path => do
    Run.tell (.visited id path input)
    inner.validate input path

end Schema
end Schemata
