import Schemata.Number.Range
import Schemata.Schema.Parse
import Schemata.Value.Quoted

/-! # Typed results

A target is a type that accepted values can be decoded into. Decoding gives the value that the
decoded one is written as: a map in the order of its keys, a record with all of its fields, a
double for an integer where a double is wanted. Integer targets take no doubles.
-/
namespace Schemata

inductive Target
  | integer (name : String) (range : IntRange)
  | double
  | boolean
  | string
  | unit
  | option (t : Target)
  | sequence (t : Target)
  | map (t : Target)
  | record (name : String) (fields : List (String × Target))
  | anything

inductive DecodeError
  | wrongType (found : Value) (wanted : String)
  | outOfRange (n : Int) (wanted : String)
  | missingField (name : String)
  | tooShort (length : Nat) (record : String) (fields : Nat)
  | tooLong (length : Nat)

namespace DecodeError

/-- How an unexpected value is shown. -/
def shown : Value → String
  | .null => "null"
  | .bool b => "boolean \x60" ++ (if b then "true" else "false") ++ "\x60"
  | .number (.int n) => "integer \x60" ++ toString n ++ "\x60"
  | .number (.float x) => "floating point \x60" ++ x.text ++ "\x60"
  | .string s => "string " ++ Text.quoteShown s
  | .array _ => "sequence"
  | .object _ => "map"

def message : DecodeError → String
  | .wrongType found wanted => "invalid type: " ++ shown found ++ ", expected " ++ wanted
  | .outOfRange n wanted =>
    "invalid value: integer \x60" ++ toString n ++ "\x60, expected " ++ wanted
  | .missingField name => "missing field \x60" ++ name ++ "\x60"
  | .tooShort length record fields =>
    s!"invalid length {length}, expected {record} with {fields} elements"
  | .tooLong length => s!"invalid length {length}, expected fewer elements in array"

end DecodeError

abbrev Decoder := Value → Except DecodeError Value

namespace Target

private def decodeInteger (name : String) (range : IntRange) : Decoder
  | .number (.int n) =>
    if range.contains n then .ok (.int n) else .error (.outOfRange n name)
  | v => .error (.wrongType v name)

private def decodeDouble : Decoder
  | .number n =>
    match n.toDouble with
    | .finite x => .ok (.number (.float x))
    | _ => .error (.wrongType (.number n) "f64")
  | v => .error (.wrongType v "f64")

private def decodeBoolean : Decoder
  | .bool b => .ok (.bool b)
  | v => .error (.wrongType v "a boolean")

private def decodeString : Decoder
  | .string s => .ok (.string s)
  | v => .error (.wrongType v "a string")

private def decodeUnit : Decoder
  | .null => .ok .null
  | v => .error (.wrongType v "unit")

private def sortByKey (entries : List (String × Value)) : List (String × Value) :=
  entries.mergeSort fun e f => decide (e.1 ≤ f.1)

/-- A field that a record may go without. -/
def absence? : Target → Option Value
  | .option _ => some .null
  | _ => none

/-- Decode the known entries in the order of the object. -/
private def decodeEntries (decoders : List (String × Decoder)) (entries : List (String × Value)) :
    Except DecodeError (List (String × Value)) := do
  let known ← entries.mapM fun e =>
    match decoders.lookup e.1 with
    | some decode => do return [(e.1, ← decode e.2)]
    | none => pure []
  return known.flatten

/-- Put decoded entries into the order of the fields, of which the optional ones may be absent. -/
private def completeRecord (fields : List (String × Target)) (known : List (String × Value)) :
    Except DecodeError Value := do
  let entries ← fields.mapM fun f =>
    match (known.lookup f.1).or f.2.absence? with
    | some v => pure (f.1, v)
    | none => throw (.missingField f.1)
  return .object entries

/-- Decode the fields of a record from the items of an array, in order. -/
private def decodePositions (wanted : String) (total position : Nat) :
    List (String × Decoder) → List Value → Except DecodeError (List (String × Value))
  | [], [] => pure []
  | [], rest => throw (.tooLong (position + rest.length))
  | _, [] => throw (.tooShort position wanted total)
  | (name, decode) :: decoders, v :: vs => do
    let v ← decode v
    let others ← decodePositions wanted total (position + 1) decoders vs
    return (name, v) :: others

mutual
def decode : Target → Decoder
  | .integer name range => decodeInteger name range
  | .double => decodeDouble
  | .boolean => decodeBoolean
  | .string => decodeString
  | .unit => decodeUnit
  | .anything => .ok
  | .option t => fun v =>
    match v with
    | .null => .ok .null
    | v => t.decode v
  | .sequence t => fun v =>
    match v with
    | .array items => return .array (← items.mapM t.decode)
    | v => throw (.wrongType v "a sequence")
  | .map t => fun v =>
    match v with
    | .object entries => do
      let decoded ← entries.mapM fun e => do return (e.1, ← t.decode e.2)
      return .object (sortByKey decoded)
    | v => throw (.wrongType v "a map")
  | .record name fields => fun v =>
    match v with
    | .object entries => do completeRecord fields (← decodeEntries (fieldDecoders fields) entries)
    | .array items =>
      return .object
        (← decodePositions ("struct " ++ name) fields.length 0 (fieldDecoders fields) items)
    | v => throw (.wrongType v ("struct " ++ name))

def fieldDecoders : List (String × Target) → List (String × Decoder)
  | [] => []
  | (name, t) :: rest => (name, t.decode) :: fieldDecoders rest
end

def unsigned (bits : Nat) : Target := .integer s!"u{bits}" (.unsigned bits)

def signed (bits : Nat) : Target := .integer s!"i{bits}" (.signed bits)

theorem decode_integer_int {range : IntRange} {n : Int} (h : range.contains n = true)
    (name : String) : (integer name range).decode (.int n) = .ok (.int n) :=
  if_pos h

/-- A double is no integer to a target, whatever its value. -/
theorem decode_integer_float (name : String) (range : IntRange) (x : Binary64) :
    (integer name range).decode (.number (.float x)) =
      .error (.wrongType (.number (.float x)) name) := rfl

end Target

/-- Why a typed parse gave no result. -/
inductive TypedError
  | validation (issues : Issues)
  | deserialize (error : DecodeError)

def TypedError.message : TypedError → String
  | .validation is => is.display
  | .deserialize e => "validated output does not match target type: " ++ e.message

/-- Parse, then decode what was accepted. -/
def Schema.parseAs (s : Schema) (t : Target) (value : Value) : Run (Except TypedError Value) := do
  match ← s.parse value with
  | .error is => pure (.error (.validation is))
  | .ok out =>
    match t.decode out with
    | .ok v => pure (.ok v)
    | .error e => pure (.error (.deserialize e))

namespace Schema
variable {s : Schema} {v out : Value}

theorem parseAs_of_accepted (h : s.parse v = pure (.ok out)) (t : Target) :
    s.parseAs t v = pure ((t.decode out).mapError TypedError.deserialize) := by
  rw [parseAs, h, pure_bind]
  dsimp only
  cases t.decode out <;> rfl

theorem parseAs_of_refused {is : Issues} (h : s.parse v = pure (.error is)) (t : Target) :
    s.parseAs t v = pure (.error (.validation is)) := by
  rw [parseAs, h, pure_bind]

end Schema
end Schemata
