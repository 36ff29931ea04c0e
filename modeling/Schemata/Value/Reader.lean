import Schemata.Value
import Schemata.Number.Decimal
import Schemata.Number.Range

/-! # Reading values

A numeral without point and exponent that fits a signed or an unsigned 64-bit word is an integer,
and every other numeral is a double; so is minus zero, which no integer can hold. A name that an
object repeats keeps its first place and its last value.
-/
namespace Schemata.Value

private def isBlank (c : Char) : Bool := c == ' ' || c == '\t' || c == '\n' || c == '\r'

private def skipBlank (cs : List Char) : List Char := cs.dropWhile isBlank

def hexValue? (c : Char) : Option Nat :=
  if '0' ≤ c ∧ c ≤ '9' then some (c.toNat - '0'.toNat)
  else if 'a' ≤ c ∧ c ≤ 'f' then some (c.toNat - 'a'.toNat + 10)
  else if 'A' ≤ c ∧ c ≤ 'F' then some (c.toNat - 'A'.toNat + 10)
  else none

def hexNumber? (cs : List Char) : Option Nat :=
  cs.foldl (fun n c => do return 16 * (← n) + (← hexValue? c)) (some 0)

private def simpleEscape? (c : Char) : Option Char :=
  match c with
  | '"' => some '"'
  | '\\' => some '\\'
  | '/' => some '/'
  | 'b' => some '\x08'
  | 't' => some '\t'
  | 'n' => some '\n'
  | 'f' => some '\x0c'
  | 'r' => some '\r'
  | _ => none

private def isHigh (n : Nat) : Bool := 0xD800 ≤ n && n < 0xDC00
private def isLow (n : Nat) : Bool := 0xDC00 ≤ n && n < 0xE000

/-- The rest of a string after its opening quote. A code point beyond the first plane may be
escaped as a pair, and half a pair is an error. -/
private def string? (acc : List Char) : List Char → Option (String × List Char)
  | '"' :: cs => some (String.ofList acc.reverse, cs)
  | '\\' :: 'u' :: a :: b :: c :: d :: '\\' :: 'u' :: a' :: b' :: c' :: d' :: cs => do
    let n ← hexNumber? [a, b, c, d]
    if isHigh n then
      let m ← hexNumber? [a', b', c', d']
      if isLow m then
        string? (Char.ofNat (0x10000 + (n - 0xD800) * 0x400 + (m - 0xDC00)) :: acc) cs
      else none
    else if isLow n then none
    else string? (Char.ofNat n :: acc) ('\\' :: 'u' :: a' :: b' :: c' :: d' :: cs)
  | '\\' :: 'u' :: a :: b :: c :: d :: cs => do
    let n ← hexNumber? [a, b, c, d]
    if isHigh n || isLow n then none else string? (Char.ofNat n :: acc) cs
  | '\\' :: c :: cs => do string? ((← simpleEscape? c) :: acc) cs
  | c :: cs => if c.toNat < 0x20 then none else string? (c :: acc) cs
  | [] => none

/-- An integer fits a signed or an unsigned word. -/
def integerFits (n : Int) : Bool :=
  (IntRange.signed 64).contains n || (IntRange.unsigned 64).contains n

private def number? (cs : List Char) : Option (Value × List Char) := do
  let (negative, cs) := match cs with
    | '-' :: cs => (true, cs)
    | cs => (false, cs)
  let parts ← Decimal.parts? cs
  if parts.whole.isEmpty || parts.fraction == some [] ||
      (parts.whole.length > 1 && parts.whole.head? == some '0') then none
  else
    let n : Int := naturalOfDigits parts.whole
    let n := if negative then -n else n
    let plain := parts.fraction.isNone && parts.exponent.isNone
    if plain && integerFits n && !(negative && n == 0) then some (.int n, parts.rest)
    else
      match (parts.decimal negative).toDouble with
      | .finite x => some (.number (.float x), parts.rest)
      | _ => none

mutual
private def value? : Nat → List Char → Option (Value × List Char)
  | 0, _ => none
  | fuel + 1, cs =>
    match skipBlank cs with
    | 'n' :: 'u' :: 'l' :: 'l' :: rest => some (.null, rest)
    | 't' :: 'r' :: 'u' :: 'e' :: rest => some (.bool true, rest)
    | 'f' :: 'a' :: 'l' :: 's' :: 'e' :: rest => some (.bool false, rest)
    | '"' :: rest => (string? [] rest).map fun (s, rest) => (.string s, rest)
    | '[' :: rest =>
      match skipBlank rest with
      | ']' :: rest => some (.array [], rest)
      | rest => (items? fuel [] rest).map fun (vs, rest) => (.array vs, rest)
    | '\x7b' :: rest =>
      match skipBlank rest with
      | '\x7d' :: rest => some (.object [], rest)
      | rest => (entries? fuel [] rest).map fun (es, rest) => (.object es, rest)
    | rest => number? rest

private def items? : Nat → List Value → List Char → Option (List Value × List Char)
  | 0, _, _ => none
  | fuel + 1, acc, cs => do
    let (v, rest) ← value? fuel cs
    match skipBlank rest with
    | ',' :: rest => items? fuel (v :: acc) rest
    | ']' :: rest => some ((v :: acc).reverse, rest)
    | _ => none

private def entries? : Nat → List (String × Value) → List Char →
    Option (List (String × Value) × List Char)
  | 0, _, _ => none
  | fuel + 1, acc, cs => do
    match skipBlank cs with
    | '"' :: rest =>
      let (name, rest) ← string? [] rest
      match skipBlank rest with
      | ':' :: rest =>
        let (v, rest) ← value? fuel rest
        let acc := Entries.insert acc name v
        match skipBlank rest with
        | ',' :: rest => entries? fuel acc rest
        | '\x7d' :: rest => some (acc, rest)
        | _ => none
      | _ => none
    | _ => none
end

/-- The value that a whole text writes, with blanks around it. -/
def ofText? (text : String) : Option Value :=
  let cs := text.toList
  match value? (2 * cs.length + 2) cs with
  | some (v, rest) => if (skipBlank rest).isEmpty then some v else none
  | none => none

/-! ## What is read -/

private theorem distinct_of_number? {cs rest : List Char} {v : Value}
    (h : number? cs = some (v, rest)) : v.Distinct := by
  unfold number? at h
  dsimp only at h
  generalize (match cs with
    | '-' :: cs => (true, cs)
    | cs => (false, cs)) = signed at h
  obtain ⟨parts, _, h⟩ := Option.bind_eq_some_iff.mp h
  generalize (if signed.1 = true then -(naturalOfDigits parts.whole : Int)
    else (naturalOfDigits parts.whole : Int)) = n at h
  split at h
  · cases h
  · split at h
    · cases h
      exact .number _
    · split at h
      · cases h
        exact .number _
      · cases h

/-- Distinct names stay so when one more entry is read. -/
private theorem distinct_insert {es : List (String × Value)} (hn : Entries.Distinct es)
    (hv : ∀ e ∈ es, e.2.Distinct) (name : String) {v : Value} (h : v.Distinct) :
    Entries.Distinct (Entries.insert es name v) ∧
      ∀ e ∈ Entries.insert es name v, e.2.Distinct := by
  refine ⟨hn.insert name v, ?_⟩
  intro e he
  rcases Entries.mem_alter he with he | ⟨_, rfl⟩
  · exact hv e he
  · exact h

/-- The induction is on the fuel, for values, elements and entries at once: what was read of an
array or object so far is distinct, and stays so. -/
private theorem distinct_of_read (fuel : Nat) :
    (∀ {cs v rest}, value? fuel cs = some (v, rest) → v.Distinct) ∧
    (∀ {acc cs vs rest}, (∀ v ∈ acc, v.Distinct) → items? fuel acc cs = some (vs, rest) →
      ∀ v ∈ vs, v.Distinct) ∧
    (∀ {acc cs es rest}, Entries.Distinct acc → (∀ e ∈ acc, e.2.Distinct) →
      entries? fuel acc cs = some (es, rest) →
      Entries.Distinct es ∧ ∀ e ∈ es, e.2.Distinct) := by
  induction fuel with
  | zero =>
    refine ⟨?_, ?_, ?_⟩
    · intro cs v rest h
      simp [value?] at h
    · intro acc cs vs rest _ h
      simp [items?] at h
    · intro acc cs es rest _ _ h
      simp [entries?] at h
  | succ fuel ih =>
    obtain ⟨hvalue, hitems, hentries⟩ := ih
    refine ⟨?_, ?_, ?_⟩
    · intro cs v rest h
      unfold value? at h
      split at h
      · cases h
        exact .null
      · cases h
        exact .bool true
      · cases h
        exact .bool false
      · obtain ⟨read, _, hr⟩ := Option.map_eq_some_iff.mp h
        cases hr
        exact .string _
      · split at h
        · cases h
          exact .array (List.forall_mem_nil _)
        · obtain ⟨read, hread, hr⟩ := Option.map_eq_some_iff.mp h
          cases hr
          exact .array (hitems (List.forall_mem_nil _) hread)
      · split at h
        · cases h
          exact .object List.nodup_nil (List.forall_mem_nil _)
        · obtain ⟨read, hread, hr⟩ := Option.map_eq_some_iff.mp h
          cases hr
          have hnil : Entries.Distinct ([] : List (String × Value)) := List.nodup_nil
          obtain ⟨hn, he⟩ := hentries hnil (List.forall_mem_nil _) hread
          exact .object hn he
      · exact distinct_of_number? h
    · intro acc cs vs rest hacc h
      unfold items? at h
      obtain ⟨⟨v, rest'⟩, hv, h⟩ := Option.bind_eq_some_iff.mp h
      have hall := List.forall_mem_cons.mpr ⟨hvalue hv, hacc⟩
      dsimp only at h
      split at h
      · exact hitems hall h
      · cases h
        exact fun w hw => hall w (List.mem_reverse.mp hw)
      · cases h
    · intro acc cs es rest hn hacc h
      unfold entries? at h
      split at h
      · obtain ⟨⟨name, rest'⟩, _, h⟩ := Option.bind_eq_some_iff.mp h
        dsimp only at h
        split at h
        · obtain ⟨⟨v, rest''⟩, hv, h⟩ := Option.bind_eq_some_iff.mp h
          obtain ⟨hn', hacc'⟩ := distinct_insert hn hacc name (hvalue hv)
          dsimp only at h
          split at h
          · exact hentries hn' hacc' h
          · cases h
            exact ⟨hn', hacc'⟩
          · cases h
        · cases h
      · cases h

/-- A text with repeated names is read as a value without. -/
theorem distinct_of_ofText? {text : String} {v : Value} (h : ofText? text = some v) :
    v.Distinct := by
  simp only [ofText?] at h
  split at h
  · next w rest hr =>
    split at h
    · cases h
      exact (distinct_of_read _).1 hr
    · cases h
  · cases h

end Schemata.Value
