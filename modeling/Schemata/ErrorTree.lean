import Schemata.Issue

/-! # Issues nested along their paths

A node holds the messages of the issues at one path and a child for each next segment, in the order
in which issues first touched it. Segments are rendered, so an index and the key of its digits lead
to one child. A flat form keeps only the first segment.
-/
namespace Schemata

inductive ErrorTree
  | node (errors : List String) (children : List (String × ErrorTree))

namespace ErrorTree

def errors : ErrorTree → List String
  | .node errors _ => errors

def children : ErrorTree → Entries ErrorTree
  | .node _ children => children

def empty : ErrorTree := .node [] []

def keys (t : ErrorTree) : List String := t.children.names

def get? (t : ErrorTree) (key : String) : Option ErrorTree := t.children.get? key

/-- The node that a list of keys leads to. -/
def walk? (t : ErrorTree) : List String → Option ErrorTree
  | [] => some t
  | key :: keys => (t.get? key).bind fun child => child.walk? keys

/-- Add a message at the end of a path, making the nodes that are missing. -/
def add (message : String) : List String → ErrorTree → ErrorTree
  | [], .node errors children => .node (errors ++ [message]) children
  | key :: keys, .node errors children =>
    .node errors (Entries.alter key (fun child => add message keys (child.getD empty)) children)

def ofIssues (issues : List Issue) : ErrorTree :=
  issues.foldl (fun t i => t.add i.message i.path.rendered) empty

mutual
/-- No message in the whole tree. -/
def isEmpty : ErrorTree → Bool
  | .node errors children => errors.isEmpty && allEmpty children

def allEmpty : List (String × ErrorTree) → Bool
  | [] => true
  | (_, child) :: rest => child.isEmpty && allEmpty rest
end

mutual
/-- Equal messages at equal paths, whatever the order of children. -/
def same : ErrorTree → ErrorTree → Bool
  | .node errors children, t =>
    errors == t.errors && children.length == t.children.length && sameChildren children t

def sameChildren : List (String × ErrorTree) → ErrorTree → Bool
  | [], _ => true
  | (key, child) :: rest, t =>
    (match t.get? key with
      | some other => child.same other
      | none => false) && sameChildren rest t
end

/-- The name under which a node's own messages are written. -/
def ownKey : String := "_errors"

mutual
/-- A node as a value. A child with the name of the own messages takes their place. -/
def toValue : ErrorTree → Value
  | .node errors children =>
    .object (Entries.insertAll [(ownKey, .strings errors)] (childValues children))

def childValues : List (String × ErrorTree) → List (String × Value)
  | [] => []
  | (key, child) :: rest => (key, child.toValue) :: childValues rest
end

mutual
/-- A node as text, its own messages first. A child with their name repeats it. -/
def text : ErrorTree → String
  | .node errors children =>
    Text.brace (Text.entry ownKey (Value.strings errors).text :: childTexts children)

def childTexts : List (String × ErrorTree) → List String
  | [] => []
  | (key, child) :: rest => Text.entry key child.text :: childTexts rest
end

end ErrorTree

/-- Messages of the root, and of everything below each first segment. -/
structure FlatErrors where
  form : List String
  fields : Entries (List String)

namespace FlatErrors

def add (f : FlatErrors) (i : Issue) : FlatErrors :=
  match i.path with
  | [] => { f with form := f.form ++ [i.message] }
  | s :: _ =>
    { f with fields := f.fields.alter s.rendered fun ms => ms.getD [] ++ [i.message] }

def ofIssues (issues : List Issue) : FlatErrors := issues.foldl add ⟨[], []⟩

def same (f g : FlatErrors) : Bool :=
  f.form == g.form && f.fields.length == g.fields.length &&
    f.fields.all fun (name, ms) => g.fields.get? name == some ms

def toValue (f : FlatErrors) : Value :=
  .object [("formErrors", .strings f.form), ("fieldErrors", .object (f.fields.mapValues .strings))]

end FlatErrors
end Schemata
