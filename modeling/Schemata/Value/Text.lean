import Schemata.Value

/-! # Writing values

The compact text of a value: no blanks, entries in order, and only quotes, backslashes and control
characters escaped.
-/
namespace Schemata

namespace Text

def hexDigit (n : Nat) : Char := (Nat.digitChar n)

/-- A control character without a letter of its own is written by its number. -/
def escape (c : Char) : List Char :=
  if c = '"' then ['\\', '"']
  else if c = '\\' then ['\\', '\\']
  else if c = '\x08' then ['\\', 'b']
  else if c = '\t' then ['\\', 't']
  else if c = '\n' then ['\\', 'n']
  else if c = '\x0c' then ['\\', 'f']
  else if c = '\r' then ['\\', 'r']
  else if c.toNat < 0x20 then
    ['\\', 'u', '0', '0', hexDigit (c.toNat / 16), hexDigit (c.toNat % 16)]
  else [c]

def quote (s : String) : String := String.ofList ('"' :: s.toList.flatMap escape ++ ['"'])

def bracket (parts : List String) : String := "[" ++ ",".intercalate parts ++ "]"

def brace (parts : List String) : String := "\x7b" ++ ",".intercalate parts ++ "\x7d"

def entry (name text : String) : String := quote name ++ ":" ++ text

end Text

namespace Value
open Text

mutual
def text : Value → String
  | .null => "null"
  | .bool true => "true"
  | .bool false => "false"
  | .number n => n.text
  | .string s => quote s
  | .array items => bracket (itemTexts items)
  | .object entries => brace (entryTexts entries)

def itemTexts : List Value → List String
  | [] => []
  | v :: vs => v.text :: itemTexts vs

def entryTexts : List (String × Value) → List String
  | [] => []
  | (name, v) :: rest => entry name v.text :: entryTexts rest
end

def strings (ss : List String) : Value := .array (ss.map .string)

end Value
end Schemata
