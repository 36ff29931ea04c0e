import Schemata.Pattern.Flags

/-! # Escapes and bracketed classes

An escape is a literal, a class or an anchor. A bracketed class joins its items; intersections,
differences and symmetric differences bind less than joining and group to the left. Each reader
returns what is left of the pattern, or nothing on a malformed one.
-/
namespace Schemata.Pattern

/-- What one escape stands for. A literal may be a byte that is no character. -/
inductive Escape
  | literal (c : Char) (byte : Bool)
  | set (s : CharSet)
  | edge (e : Edge)

private def hexDigits? (digits : List Char) : Option Char := do
  let n ← digits.foldl (fun n c => do
    return 16 * (← n) + (← Unicode.hexDigitValue? c.toLower)) (some 0)
  if digits.length ≤ 8 && n.isValidChar then some (Char.ofNat n) else none

private def isHexDigit (c : Char) : Bool := (Unicode.hexDigitValue? c.toLower).isSome

/-- A fixed number of hexadecimal digits. -/
private def fixedHex? (f : Flags) : Nat → List Char → List Char → Option (Char × List Char)
  | 0, acc, cs => (hexDigits? acc.reverse).map (·, cs)
  | n + 1, acc, c :: cs => if isHexDigit c then fixedHex? f n (c :: acc) (f.skip cs) else none
  | _ + 1, _, [] => none

/-- The text up to a closing brace. In extended mode blanks in it do not count. -/
private def braced? (f : Flags) : Nat → List Char → List Char → Option (List Char × List Char)
  | 0, _, _ => none
  | fuel + 1, acc, cs =>
    match f.skip cs with
    | '\x7d' :: cs => some (acc.reverse, cs)
    | c :: cs => braced? f fuel (c :: acc) cs
    | [] => none

/-- Drop leading zeros, so that only the value counts. -/
private def withoutZeros (digits : List Char) : List Char :=
  match digits.dropWhile (· == '0') with
  | [] => ['0']
  | digits => digits

private def hexEscape? (f : Flags) (width : Nat) (cs : List Char) : Option (Escape × List Char) :=
  match f.skip cs with
  | '\x7b' :: cs => do
    let (digits, cs) ← braced? f (cs.length + 1) [] cs
    if digits.isEmpty || !digits.all isHexDigit then none
    else return (.literal (← hexDigits? (withoutZeros digits)) false, f.skip cs)
  | cs => do
    let (c, cs) ← fixedHex? f width [] cs
    return (.literal c (width == 2), cs)

/-- Split a property at its first sign of (in)equality. -/
private def splitProperty (acc : List Char) : List Char → Option (List Char × Bool × List Char)
  | '!' :: '=' :: cs => some (acc.reverse, true, cs)
  | c :: cs => splitProperty (c :: acc) cs
  | [] => none

private def splitAt (mark : Char) (cs : List Char) : Option (List Char × Bool × List Char) :=
  if cs.contains mark then
    some (cs.takeWhile (· != mark), false, (cs.dropWhile (· != mark)).drop 1)
  else none

private def property? (text : List Char) : Option (Bool × CharSet) :=
  match (splitProperty [] text).or ((splitAt ':' text).or (splitAt '=' text)) with
  | some (name, unequal, value) =>
    (Unicode.valueClass? (String.ofList name) (String.ofList value)).map (unequal, ·)
  | none => (Unicode.nameClass? (String.ofList text)).map (false, ·)

private def propertyEscape? (f : Flags) (negated : Bool) (cs : List Char) :
    Option (Escape × List Char) := do
  let (text, cs) ← match f.skip cs with
    | '\x7b' :: cs => braced? f (cs.length + 1) [] cs
    | c :: cs => if c = '\\' then none else some ([c], f.skip cs)
    | [] => none
  let (unequal, s) ← property? text
  if f.unicode then return (.set (f.foldAndNegate (negated != unequal) s), cs) else none

private def isWordName (c : Char) : Bool := c.isAlpha || c == '-'

/-- The special boundary that braces after a word boundary name. Braces that cannot name one are
left for a repetition. -/
private def specialBoundary? (f : Flags) (cs : List Char) : Option (Escape × List Char) :=
  match cs with
  | '\x7b' :: inner =>
    match f.skip inner with
    | [] => none
    | c :: _ =>
      if !isWordName c then some (.edge f.wordBoundary, cs)
      else do
        let (name, rest) ← braced? f (inner.length + 1) [] inner
        match String.ofList name with
        | "start" => some (.edge f.wordStart, rest)
        | "end" => some (.edge f.wordEnd, rest)
        | "start-half" => some (.edge f.wordStartHalf, rest)
        | "end-half" => some (.edge f.wordEndHalf, rest)
        | _ => none
  | _ => some (.edge f.wordBoundary, cs)

/-- Punctuation, blanks and controls of ASCII stand for themselves, angle brackets excepted. -/
private def standsForItself (c : Char) : Bool :=
  c.toNat < 0x80 && !CharSet.asciiAlphanumeric c && c != '<' && c != '>'

/-- Read an escape after its backslash. -/
def escape? (f : Flags) : List Char → Option (Escape × List Char)
  | [] => none
  | c :: cs =>
    match c with
    | 'x' => hexEscape? f 2 cs
    | 'u' => hexEscape? f 4 cs
    | 'U' => hexEscape? f 8 cs
    | 'p' => propertyEscape? f false cs
    | 'P' => propertyEscape? f true cs
    | 'd' | 's' | 'w' => (f.shorthand? c).map fun s => (.set s, cs)
    | 'D' | 'S' | 'W' => (f.shorthand? c.toLower).map fun s => (.set s.compl, cs)
    | 'a' => some (.literal '\x07' false, cs)
    | 'f' => some (.literal '\x0c' false, cs)
    | 't' => some (.literal '\t' false, cs)
    | 'n' => some (.literal '\n' false, cs)
    | 'r' => some (.literal '\r' false, cs)
    | 'v' => some (.literal '\x0b' false, cs)
    | 'A' => some (.edge textStart, cs)
    | 'z' => some (.edge textEnd, cs)
    | 'b' => specialBoundary? f cs
    | 'B' => some (.edge (fun before after => !f.wordBoundary before after), cs)
    | '<' => some (.edge f.wordStart, cs)
    | '>' => some (.edge f.wordEnd, cs)
    | c => if standsForItself c then some (.literal c false, cs) else none

/-! ## Bracketed classes -/

/-- Operations between the parts of a class. -/
inductive SetOp
  | inter
  | diff
  | symmDiff

def SetOp.apply : SetOp → CharSet → CharSet → CharSet
  | .inter => CharSet.inter
  | .diff => CharSet.diff
  | .symmDiff => CharSet.symmDiff

/-- The part of a class read so far: what stands left of the last operation, and the items since.
-/
structure ClassState where
  left : Option (CharSet × SetOp)
  items : CharSet

namespace ClassState

def start : ClassState := ⟨none, fun _ => false⟩

def add (st : ClassState) (s : CharSet) : ClassState := { st with items := st.items.union s }

/-- The set read so far. Both sides of an operation are closed under a change of case first. -/
def value (f : Flags) (st : ClassState) : CharSet :=
  match st.left with
  | none => st.items
  | some (left, op) => op.apply (f.fold left) (f.fold st.items)

def operate (f : Flags) (st : ClassState) (op : SetOp) : ClassState :=
  ⟨some (st.value f, op), fun _ => false⟩

end ClassState

/-- An item of a class: a literal, which may start a range, or a set. -/
private def classItem? (f : Flags) : List Char → Option ((Char ⊕ CharSet) × List Char)
  | [] => none
  | '\\' :: cs => do
    match ← escape? f cs with
    | (.literal c _, cs) => if f.unicode || c.toNat < 0x80 then some (.inl c, cs) else none
    | (.set s, cs) => some (.inr s, cs)
    | (.edge _, _) => none
  | c :: cs => if f.unicode || c.toNat < 0x80 then some (.inl c, cs) else none

/-- The character after the next one, from which a hyphen shows whether it makes a range. In
extended mode blanks before it do not count. -/
private def second? (f : Flags) (cs : List Char) : Option Char :=
  let rest := cs.drop 1
  if f.extended then
    let rest := rest.dropWhile Unicode.isWhiteSpace
    match rest with
    | '#' :: rest => (rest.dropWhile Unicode.isWhiteSpace).head?
    | rest => rest.head?
  else rest.head?

/-- A range or a single item. -/
private def classRange? (f : Flags) (cs : List Char) : Option (CharSet × List Char) := do
  let (first, cs) ← classItem? f cs
  let cs := f.skip cs
  let next ← cs.head?
  let second := second? f cs
  if next != '-' || second == some ']' || second == some '-' then
    match first with
    | .inl c => some (CharSet.single c, cs)
    | .inr s => some (s, cs)
  else
    match first, ← classItem? f (f.skip (cs.drop 1)) with
    | .inl a, (.inl b, cs) => if a ≤ b then some (CharSet.range a b, cs) else none
    | _, _ => none

/-- A class named between colons, after its opening bracket. -/
private def namedClass? (f : Flags) : List Char → Option (CharSet × List Char)
  | ':' :: cs =>
    let (negated, cs) := match cs with
      | '^' :: cs => (true, cs)
      | cs => (false, cs)
    match cs.dropWhile (· != ':') with
    | ':' :: ']' :: rest =>
      (CharSet.named? (String.ofList (cs.takeWhile (· != ':')))).map fun s =>
        (f.foldAndNegate negated s, rest)
    | _ => none
  | _ => none

/-- Hyphens right after the opening are literal. -/
private def leadingHyphens (f : Flags) : Nat → ClassState → List Char → ClassState × List Char
  | fuel + 1, st, '-' :: cs => leadingHyphens f fuel (st.add (CharSet.single '-')) (f.skip cs)
  | _, st, cs => (st, cs)

/-- The start of a class after its opening bracket: whether it is negated, and its literal hyphens
or closing bracket. -/
private def classOpening (f : Flags) (cs : List Char) : Bool × ClassState × List Char :=
  let cs := f.skip cs
  let (negated, cs) := match cs with
    | '^' :: cs => (true, f.skip cs)
    | cs => (false, cs)
  match cs with
  | ']' :: cs => (negated, ClassState.start.add (CharSet.single ']'), f.skip cs)
  | cs =>
    let (st, cs) := leadingHyphens f cs.length .start cs
    (negated, st, cs)

mutual
/-- Read a class after its opening bracket. -/
def class? (f : Flags) : Nat → List Char → Option (CharSet × List Char)
  | 0, _ => none
  | fuel + 1, cs => do
    let (negated, st, cs) := classOpening f cs
    let (s, cs) ← classItems? f fuel st cs
    return (f.foldAndNegate negated s, cs)

/-- Read the items of a class up to its closing bracket. -/
def classItems? (f : Flags) : Nat → ClassState → List Char → Option (CharSet × List Char)
  | 0, _, _ => none
  | fuel + 1, st, cs =>
    match f.skip cs with
    | [] => none
    | ']' :: cs => some (st.value f, cs)
    | '[' :: cs => do
      let (s, cs) ← (namedClass? f cs).or (class? f fuel cs)
      classItems? f fuel (st.add s) cs
    | '&' :: '&' :: cs => classItems? f fuel (st.operate f .inter) cs
    | '-' :: '-' :: cs => classItems? f fuel (st.operate f .diff) cs
    | '~' :: '~' :: cs => classItems? f fuel (st.operate f .symmDiff) cs
    | cs => do
      let (s, cs) ← classRange? f cs
      classItems? f fuel (st.add s) cs
end

end Schemata.Pattern
