import Schemata.Callback
import Schemata.Rules.Array
import Schemata.Rules.Number
import Schemata.Rules.String

/-! # Schemas and validation

A schema is a tree. Validating an input, which may be absent, at a path is a run that ends in a
verdict: all children of an object or an array are validated whatever their siblings gave, the
options of a union only up to the first that accepts, and callbacks only on accepted values. A
custom schema is a function of the caller's.
-/
namespace Schemata

/-- What an object schema does with the entries of an object that it does not declare. -/
inductive UnknownKeys
  | strip
  | strict
  | passthrough
deriving DecidableEq

inductive Schema
  | string (rules : StringRules)
  | number (rules : NumberRules)
  | boolean (message : Option String)
  | literal (value : Value) (message : Option String)
  | choice (options : List String) (message : Option String)
  | null
  | undefined
  | void
  | any
  | unknown
  | array (element : Schema) (rules : ArrayRules)
  | object (shape : List (String × Schema)) (unknownKeys : UnknownKeys) (message : Option String)
  | union (options : List Schema) (message : Option String)
  | optional (inner : Schema)
  | nullable (inner : Schema)
  | withDefault (inner : Schema) (value : Value)
  | refine (inner : Schema) (check : Check)
  | transform (inner : Schema) (mapper : Mapper)
  | boxed (inner : Schema)
  | custom (typeName : String) (run : Option Value → Path → Run Verdict)

namespace Schema

/-- The kind of schema; a box shows what it holds. -/
def typeName : Schema → String
  | .string _ => "string"
  | .number _ => "number"
  | .boolean _ => "boolean"
  | .literal _ _ => "literal"
  | .choice _ _ => "enum"
  | .null => "null"
  | .undefined => "undefined"
  | .void => "void"
  | .any => "any"
  | .unknown => "unknown"
  | .array _ _ => "array"
  | .object _ _ _ => "object"
  | .union _ _ => "union"
  | .optional _ => "optional"
  | .nullable _ => "nullable"
  | .withDefault _ _ => "default"
  | .refine _ _ => "refinement"
  | .transform _ _ => "transform"
  | .boxed inner => inner.typeName
  | .custom name _ => name

/-! ## Verdicts of the leaves -/

private def mismatch (expected : String) (message : Option String) (input : Option Value)
    (path : Path) : Verdict :=
  .error (.single (invalidType expected message input path))

/-- How an input that was refused is described. -/
def describe : Option Value → String
  | some v => v.text
  | none => Kind.undefined.name

def literalVerdict (value : Value) (message : Option String) (input : Option Value) (path : Path) :
    Verdict :=
  let refusal : Verdict := .error <| .single
    ⟨path, message.getD ("Invalid literal value, expected " ++ value.text), .invalidLiteral,
      some (describe input), some value.text⟩
  match input with
  | some v => if value.same v then .ok (some v) else refusal
  | none => refusal

private def singleQuoted (s : String) : String := "'" ++ s ++ "'"

/-- A refused string is described in the quotes of the options. -/
def describeChoice : Option Value → String
  | some (.string s) => singleQuoted s
  | input => describe input

def choiceVerdict (options : List String) (message : Option String) (input : Option Value)
    (path : Path) : Verdict :=
  let expected := " | ".intercalate (options.map singleQuoted)
  let received := describeChoice input
  let standard := "Invalid enum value. Expected " ++ expected ++ ", received " ++ received
  let refusal : Verdict := .error <| .single
    ⟨path, message.getD standard, .invalidEnumValue, some received, some expected⟩
  match input with
  | some (.string s) => if options.contains s then .ok (some (.string s)) else refusal
  | _ => refusal

def booleanVerdict (message : Option String) (input : Option Value) (path : Path) : Verdict :=
  match input with
  | some (.bool b) => .ok (some (.bool b))
  | _ => mismatch "boolean" message input path

def nullVerdict (input : Option Value) (path : Path) : Verdict :=
  match input with
  | some .null => .ok (some .null)
  | _ => mismatch "null" none input path

/-- Only an absent input is accepted. -/
def absentVerdict (expected : String) (input : Option Value) (path : Path) : Verdict :=
  match input with
  | none => .ok none
  | some _ => mismatch expected none input path

/-! ## Verdicts of the inner nodes -/

/-- The entries of an object that a shape does not declare. -/
def undeclared (names : List String) (entries : List (String × Value)) : List (String × Value) :=
  entries.filter fun e => !names.contains e.1

def unrecognized (path : Path) (key : String) : Issue :=
  ⟨path, "Unrecognized key: " ++ singleQuoted key, .unrecognizedKeys, some key, none⟩

/-- The verdict on an object from those on its fields and from the entries that were not declared.
-/
def objectVerdict (unknownKeys : UnknownKeys) (unknown : List (String × Value)) (path : Path)
    (fields : List (String × Verdict)) : Verdict :=
  let output := fields.filterMap fun f => f.2.value?.map fun v => (f.1, v)
  let issues := fields.flatMap fun f => f.2.issues
  match unknownKeys with
  | .strip => .conclude (.object output) issues
  | .passthrough => .conclude (.object (output ++ unknown)) issues
  | .strict => .conclude (.object output) (issues ++ unknown.map fun e => unrecognized path e.1)

def unionRefusal (message : Option String) (input : Option Value) (path : Path) : Verdict :=
  .error <| .single
    ⟨path, message.getD "Invalid input", .invalidUnion, some (Kind.of input).name, none⟩

mutual
def validate : Schema → Option Value → Path → Run Verdict
  | .string rules, input, path => pure (StringRules.verdict rules input path)
  | .number rules, input, path => pure (NumberRules.verdict rules input path)
  | .boolean message, input, path => pure (booleanVerdict message input path)
  | .literal value message, input, path => pure (literalVerdict value message input path)
  | .choice options message, input, path => pure (choiceVerdict options message input path)
  | .null, input, path => pure (nullVerdict input path)
  | .undefined, input, path => pure (absentVerdict "undefined" input path)
  | .void, input, path => pure (absentVerdict "void" input path)
  | .any, input, _ => pure (.ok input)
  | .unknown, input, _ => pure (.ok input)
  | .array element rules, input, path =>
    match input with
    | some (.array items) => do
      let elements ← items.zipIdx.mapM fun item =>
        element.validate (some item.1) (path.index item.2)
      pure (ArrayRules.verdict rules items path elements)
    | _ => pure (mismatch "array" rules.typeMessage input path)
  | .object shape unknownKeys message, input, path =>
    match input with
    | some (.object entries) => do
      let fields ← validateFields shape entries path
      pure (objectVerdict unknownKeys (undeclared (shape.map Prod.fst) entries) path fields)
    | _ => pure (mismatch "object" message input path)
  | .union options message, input, path => do
    match ← firstAccepted options input path with
    | some out => pure (.ok out)
    | none => pure (unionRefusal message input path)
  | .optional inner, input, path =>
    match input with
    | none => pure (.ok none)
    | some v => inner.validate (some v) path
  | .nullable inner, input, path =>
    match input with
    | some .null => pure (.ok (some .null))
    | input => inner.validate input path
  | .withDefault inner value, input, path =>
    match input with
    | none => pure (.ok (some value))
    | some v => inner.validate (some v) path
  | .refine inner check, input, path => do
    check.after path (fun v _ => v) (← inner.validate input path)
  | .transform inner mapper, input, path => do
    mapper.after path (fun _ v => v) (← inner.validate input path)
  | .boxed inner, input, path => inner.validate input path
  | .custom _ run, input, path => run input path

/-- The verdicts of the fields of a shape, each on the entry of its name. -/
def validateFields : List (String × Schema) → List (String × Value) → Path →
    Run (List (String × Verdict))
  | [], _, _ => pure []
  | (name, schema) :: rest, entries, path => do
    let verdict ← schema.validate (entries.lookup name) (path.key name)
    let others ← validateFields rest entries path
    pure ((name, verdict) :: others)

/-- The output of the first option that accepts the input. -/
def firstAccepted : List Schema → Option Value → Path → Run (Option (Option Value))
  | [], _, _ => pure none
  | schema :: rest, input, path => do
    match ← schema.validate input path with
    | .ok out => pure (some out)
    | .error _ => firstAccepted rest input path
end

/-- Only null is decided by a nullable schema itself. -/
theorem validate_nullable {inner : Schema} {x : Option Value} {p : Path}
    (hx : x ≠ some .null) : (nullable inner).validate x p = inner.validate x p := by
  match x with
  | some .null => exact absurd rfl hx
  | none | some (.bool _) | some (.number _) | some (.string _) | some (.array _)
  | some (.object _) => rfl

end Schema
end Schemata
