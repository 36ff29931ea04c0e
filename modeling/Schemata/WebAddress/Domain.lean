import Schemata.Unicode.Alphabetic
import Schemata.Unicode.Direction
import Schemata.Unicode.Joining
import Schemata.WebAddress.Punycode

/-! # Domain names

A domain is mapped, composed and split into labels. A label with the mark of an encoded one is
decoded and has to be what mapping and composing would have given. No label may begin with a
combining mark or misplace a joiner, and in a domain with characters written from right to left
every label keeps to its direction.
-/
namespace Schemata.WebAddress

/-- Characters that no host name holds. -/
def isDenied (c : Char) : Bool :=
  c.toNat ≤ 0x20 || c.toNat == 0x7F ||
    ['%', '#', '/', ':', '<', '>', '?', '@', '[', '\\', ']', '^', '|'].contains c

/-- Map and compose a text. -/
def mapped? (cs : List Char) : Option (List Char) := do
  let parts ← cs.mapM Unicode.hostMapping?
  let text := Unicode.composed parts.flatten
  if text.any isDenied then none else some text

def splitLabels (cs : List Char) : List (List Char) := cs.splitOn '.'

private def encoded? : List Char → Option (List Char)
  | 'x' :: 'n' :: '-' :: '-' :: rest => some rest
  | _ => none

private def isNonAscii (c : Char) : Bool := 0x80 ≤ c.toNat

/-- A label as it is read: an encoded one is decoded. -/
def label? (label : List Char) : Option (List Char) :=
  match encoded? label with
  | none => some label
  | some rest => do
    let decoded ← Punycode.decode? rest
    if decoded.any isNonAscii && !decoded.contains '.' && mapped? decoded == some decoded then
      some decoded
    else none

private def isWellFormed (label : List Char) : Bool :=
  !label.head?.any Unicode.isMark && Unicode.joinersFit [] label

/-- The labels of a domain, if it is valid. -/
def domain? (text : String) : Option (List (List Char)) := do
  let mapped ← mapped? text.toList
  let labels ← (splitLabels mapped).mapM label?
  if labels.all isWellFormed &&
      (!labels.any (·.any Unicode.isRightToLeft) || labels.all Unicode.keepsDirection) then
    some labels
  else none

end Schemata.WebAddress
