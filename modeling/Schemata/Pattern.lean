import Schemata.Number.Decimal
import Schemata.Pattern.Class

/-! # Patterns

A pattern is the text of a regular expression together with the expression that it denotes. Reading
keeps the branches and items of the group that is being read and a stack of the groups around it;
modes set inside a group end with it.
-/
namespace Schemata

structure Pattern where
  source : String
  expr : Pattern.Expr

namespace Pattern

/-- What has been read of one group. A directive that only sets modes is an item that cannot be
repeated. -/
structure Level where
  branches : List Expr
  items : List (Option Expr)

structure Reading where
  flags : Flags
  level : Level
  /-- The groups around the one being read, with their modes. -/
  enclosing : List (Level × Flags)
  names : List String

namespace Level

def start : Level := ⟨[], []⟩

def branch (l : Level) : Expr := Regex.concat (l.items.reverse.filterMap fun item => item)

def endBranch (l : Level) : Level := ⟨l.branch :: l.branches, []⟩

def expr (l : Level) : Expr := l.branches.foldl (fun e b => .alt b e) l.branch

def push (l : Level) (e : Expr) : Level := { l with items := some e :: l.items }

/-- Repeat the last item. -/
def repeat? (l : Level) (least : Nat) (more : Option Nat) : Option Level :=
  match l.items with
  | some e :: items => some { l with items := some (.loop e least more) :: items }
  | _ => none

end Level

namespace Reading

def start : Reading := ⟨.standard, .start, [], []⟩

def push (r : Reading) (e : Expr) : Reading := { r with level := r.level.push e }

def enter (r : Reading) (inner : Flags) : Reading :=
  { r with flags := inner, level := .start, enclosing := (r.level, r.flags) :: r.enclosing }

def leave? (r : Reading) : Option Reading :=
  match r.enclosing with
  | (outer, flags) :: enclosing =>
    some { r with flags := flags, level := outer.push r.level.expr, enclosing := enclosing }
  | [] => none

end Reading

private structure Switches where
  flags : Flags
  seen : List Char
  off : Bool
  dangling : Bool

/-- Mode letters up to a colon or a closing parenthesis. No letter occurs twice, at most one hyphen
turns modes off, and it does not stand last. -/
private def switches? (st : Switches) : List Char → Option (Switches × Bool × List Char)
  | [] => none
  | ':' :: cs => if st.dangling then none else some (st, true, cs)
  | ')' :: cs => if st.dangling || st.seen.isEmpty then none else some (st, false, cs)
  | '-' :: cs =>
    if st.off then none
    else switches? { st with seen := '-' :: st.seen, off := true, dangling := true } cs
  | c :: cs =>
    if st.seen.contains c then none
    else
      match st.flags.set? c (!st.off) with
      | some flags => switches? ⟨flags, c :: st.seen, st.off, false⟩ cs
      | none => none

private def startsName (c : Char) : Bool := c == '_' || Unicode.isAlphabetic c

private def continuesName (c : Char) : Bool :=
  c == '_' || c == '.' || c == '[' || c == ']' || Unicode.isAlphabetic c || Unicode.isNumeric c

/-- The name of a group, up to its closing bracket. -/
private def groupName? (cs : List Char) : Option (String × List Char) :=
  match cs.takeWhile (· != '>'), cs.dropWhile (· != '>') with
  | c :: name, _ :: rest =>
    if startsName c && name.all continuesName then some (String.ofList (c :: name), rest) else none
  | _, _ => none

private def namedGroup? (r : Reading) (cs : List Char) : Option (Reading × List Char) := do
  let (name, cs) ← groupName? cs
  if r.names.contains name then none
  else some ({ r.enter r.flags with names := name :: r.names }, cs)

/-- Read the opening of a group, or a directive, after the parenthesis. There is no looking around.
-/
private def open? (r : Reading) (cs : List Char) : Option (Reading × List Char) :=
  match r.flags.skip cs with
  | '?' :: '=' :: _ | '?' :: '!' :: _ | '?' :: '<' :: '=' :: _ | '?' :: '<' :: '!' :: _ => none
  | '?' :: 'P' :: '<' :: cs => namedGroup? r cs
  | '?' :: '<' :: cs => namedGroup? r cs
  | '?' :: cs => do
    let (st, group, cs) ← switches? ⟨r.flags, [], false, false⟩ cs
    if group then some (r.enter st.flags, cs)
    else
      let level := { r.level with items := none :: r.level.items }
      some ({ r with flags := st.flags, level := level }, cs)
  | cs => some (r.enter r.flags, cs)

private def isDigit (c : Char) : Bool := '0' ≤ c && c ≤ '9'

/-- Decimal digits, between which blanks are dropped in extended mode. -/
private def digits (f : Flags) : Nat → List Char → List Char × List Char
  | fuel + 1, c :: cs =>
    if isDigit c then
      let (ds, rest) := digits f fuel (f.skip cs)
      (c :: ds, rest)
    else ([], c :: cs)
  | _, cs => ([], cs)

/-- A count with blanks around it, absent if no digit stands there. A count fits a 32-bit word. -/
private def count? (f : Flags) (cs : List Char) : Option (Option Nat × List Char) :=
  let (ds, rest) := digits f cs.length (cs.dropWhile Unicode.isWhiteSpace)
  let rest := f.skip (rest.dropWhile Unicode.isWhiteSpace)
  let n := naturalOfDigits ds
  if ds.isEmpty then some (none, rest) else if n < 1 <<< 32 then some (some n, rest) else none

/-- A counted repetition after its opening brace: its least count, and how many more may follow. -/
private def counted? (f : Flags) (cs : List Char) : Option ((Nat × Option Nat) × List Char) := do
  let (least, cs) ← count? f (f.skip cs)
  let least ← least
  match cs with
  | '\x7d' :: cs => some ((least, some 0), f.skip cs)
  | ',' :: cs =>
    match f.skip cs with
    | '\x7d' :: cs => some ((least, none), f.skip cs)
    | cs =>
      let (most, cs) ← count? f cs
      let most ← most
      match cs with
      | '\x7d' :: cs =>
        if least ≤ most then some ((least, some (most - least)), f.skip cs) else none
      | _ => none
  | _ => none

/-- Reluctance does not change what matches. -/
private def dropReluctant : List Char → List Char
  | '?' :: cs => cs
  | cs => cs

private def repeated? (r : Reading) (least : Nat) (more : Option Nat) (cs : List Char) :
    Option (Reading × List Char) := do
  let level ← r.level.repeat? least more
  return ({ r with level := level }, dropReluctant cs)

/-- Read one piece of a pattern. -/
private def step? (r : Reading) : List Char → Option (Reading × List Char)
  | [] => none
  | '(' :: cs => open? r cs
  | ')' :: cs => do return (← r.leave?, cs)
  | '|' :: cs => some ({ r with level := r.level.endBranch }, cs)
  | '[' :: cs => do
    let (s, cs) ← class? r.flags (2 * cs.length + 1) cs
    return (r.push (← r.flags.setLetter? s), cs)
  | '?' :: cs => repeated? r 0 (some 1) cs
  | '*' :: cs => repeated? r 0 none cs
  | '+' :: cs => repeated? r 1 none cs
  | '\x7b' :: cs => do
    let ((least, more), cs) ← counted? r.flags cs
    repeated? r least more cs
  | '.' :: cs => do return (r.push (← r.flags.dot?), cs)
  | '^' :: cs => some (r.push (.edge r.flags.lineStart), cs)
  | '$' :: cs => some (r.push (.edge r.flags.lineEnd), cs)
  | '\\' :: cs => do
    match ← escape? r.flags cs with
    | (.literal c byte, cs) =>
      if byte && !r.flags.unicode && 0x80 ≤ c.toNat then none
      else some (r.push (.letter (r.flags.fold (CharSet.single c))), cs)
    | (.set s, cs) => return (r.push (← r.flags.setLetter? s), cs)
    | (.edge e, cs) => some (r.push (.edge e), cs)
  | c :: cs => some (r.push (.letter (r.flags.fold (CharSet.single c))), cs)

private def read? : Nat → Reading → List Char → Option Expr
  | 0, _, _ => none
  | fuel + 1, r, cs =>
    match r.flags.skip cs with
    | [] => if r.enclosing.isEmpty then some r.level.expr else none
    | cs => do
      let (r, cs) ← step? r cs
      read? fuel r cs

/-- The pattern that a text writes, if it is well formed. -/
def ofText? (source : String) : Option Pattern :=
  (read? (source.length + 1) .start source.toList).map fun expr => ⟨source, expr⟩

def isMatch (p : Pattern) (text : String) : Bool := p.expr.isMatch text

end Pattern
end Schemata
