import Mathlib.Order.Nat
import Schemata.Pattern.Regex

/-! # What a search finds

An expression reads words, each between the text before it and the text after it. Its search keeps
the set of all positions where a reading may end as the bits of a number. Every set that it computes
is the set of ends of readings that start in the given set, one operation for each kind of
expression, so a search finds something just when the expression reads some part of the text.
-/
namespace Schemata.Regex

/-- Which words are read between which texts. -/
abbrev Reading := List Char → List Char → List Char → Prop

def Reading.andThen (R S : Reading) : Reading := fun before word after =>
  ∃ first rest, word = first ++ rest ∧ R before first (rest ++ after) ∧
    S (before ++ first) rest after

def Reading.times (R : Reading) : Nat → Reading
  | 0 => fun _ word _ => word = []
  | n + 1 => R.andThen (R.times n)

/-- The words that an expression reads. -/
def Reads : Regex CharSet Schemata.Edge → Reading
  | .empty => fun _ word _ => word = []
  | .letter set => fun _ word _ => ∃ c, word = [c] ∧ set c = true
  | .edge e => fun before word after => word = [] ∧ e before.getLast? after.head? = true
  | .seq r s => r.Reads.andThen s.Reads
  | .alt r s => fun before word after => r.Reads before word after ∨ s.Reads before word after
  | .loop r least more => fun before word after =>
    ∃ n, least ≤ n ∧ (∀ m ∈ more, n ≤ least + m) ∧ r.Reads.times n before word after

/-! ## Steps between positions -/

def Steps (R : Nat → Nat → Prop) : Nat → Nat → Nat → Prop
  | 0, i, j => j = i
  | n + 1, i, j => ∃ k, R i k ∧ Steps R n k j

/-- Steps go ahead and stay in a text of so many characters. -/
def Ahead (size : Nat) (R : Nat → Nat → Prop) : Prop := ∀ i j, R i j → i ≤ j ∧ j ≤ size

section Steps
variable {R : Nat → Nat → Prop} {size m n i j : Nat}

theorem steps_add : Steps R (m + n) i j ↔ ∃ k, Steps R m i k ∧ Steps R n k j := by
  induction m generalizing i with
  | zero => simp [Steps]
  | succ m ih =>
    rw [Nat.succ_add]
    simp only [Steps, ih]
    constructor
    · rintro ⟨l, hl, k, hk, hj⟩
      exact ⟨k, ⟨l, hl, hk⟩, hj⟩
    · rintro ⟨k, ⟨l, hl, hk⟩, hj⟩
      exact ⟨l, hl, k, hk, hj⟩

theorem Ahead.steps (h : Ahead size R) (hi : i ≤ size) (hs : Steps R n i j) :
    i ≤ j ∧ j ≤ size := by
  induction n generalizing i with
  | zero =>
    obtain rfl : j = i := hs
    exact ⟨Nat.le_refl _, hi⟩
  | succ n ih =>
    obtain ⟨k, hk, hs⟩ := hs
    obtain ⟨hik, hks⟩ := h i k hk
    exact ⟨hik.trans (ih hks hs).1, (ih hks hs).2⟩

/-- Steps that stay where they are can be left out. -/
theorem Ahead.exists_steps_le (h : Ahead size R) (hi : i ≤ size) (hs : Steps R n i j) :
    ∃ m ≤ j - i, Steps R m i j := by
  induction n generalizing i with
  | zero => exact ⟨0, Nat.zero_le _, hs⟩
  | succ n ih =>
    obtain ⟨k, hk, hs⟩ := hs
    obtain ⟨hik, hks⟩ := h i k hk
    obtain ⟨m, hm, hmj⟩ := ih hks hs
    rcases hik.lt_or_eq with hlt | rfl
    · have hkj := (h.steps hks hs).1
      exact ⟨m + 1, by omega, k, hk, hmj⟩
    · exact ⟨m, hm, hmj⟩

end Steps

/-! ## Sets of positions -/

/-- The positions of a set, within a text of so many characters. -/
def Within (size s : Nat) : Prop := ∀ i, s.testBit i = true → i ≤ size

/-- An operation on sets of positions that takes every set to where a relation leads from it. -/
def Leads (size : Nat) (step : Nat → Nat) (R : Nat → Nat → Prop) : Prop :=
  ∀ s, Within size s → ∀ j, (step s).testBit j = true ↔ ∃ i, s.testBit i = true ∧ R i j

section Leads
variable {size : Nat} {step : Nat → Nat} {R : Nat → Nat → Prop}

theorem Leads.within (h : Leads size step R) (ha : Ahead size R) {s : Nat} (hs : Within size s) :
    Within size (step s) := by
  intro j hj
  obtain ⟨i, _, hij⟩ := (h s hs j).mp hj
  exact (ha i j hij).2

theorem Leads.repeated (h : Leads size step R) (ha : Ahead size R) (n : Nat) :
    Leads size (repeated step n) (Steps R n) := by
  induction n with
  | zero =>
    intro s _ j
    simp [Regex.repeated, Steps]
  | succ n ih =>
    intro s hs j
    rw [Regex.repeated]
    split
    · next hzero => simp [hzero]
    · rw [ih (step s) (h.within ha hs) j]
      simp only [h s hs, Steps]
      constructor
      · rintro ⟨k, ⟨i, hi, hik⟩, hkj⟩
        exact ⟨i, hi, k, hik, hkj⟩
      · rintro ⟨i, hi, k, hik, hkj⟩
        exact ⟨k, ⟨i, hi, hik⟩, hkj⟩

theorem testBit_of_steps {s i j m : Nat}
    (hclosed : ∀ i j, s.testBit i = true → R i j → s.testBit j = true)
    (hi : s.testBit i = true) (hs : Steps R m i j) : s.testBit j = true := by
  induction m generalizing i with
  | zero =>
    obtain rfl : j = i := hs
    exact hi
  | succ m ih =>
    obtain ⟨k, hk, hs⟩ := hs
    exact ih (hclosed i k hi hk) hs

theorem Leads.spread (h : Leads size step R) (ha : Ahead size R) (n : Nat) :
    Leads size (spread step n) (fun i j => ∃ m ≤ n, Steps R m i j) := by
  induction n with
  | zero =>
    intro s _ j
    simp [Regex.spread, Steps]
  | succ n ih =>
    intro s hs j
    simp only [Regex.spread]
    split
    · next hnext =>
      have hclosed : ∀ i j, s.testBit i = true → R i j → s.testBit j = true := by
        intro i j hi hij
        rw [← hnext, Nat.testBit_or, (h s hs j).mpr ⟨i, hi, hij⟩, Bool.or_true]
      constructor
      · exact fun hj => ⟨j, hj, 0, Nat.zero_le _, rfl⟩
      · rintro ⟨i, hi, m, _, hm⟩
        exact testBit_of_steps hclosed hi hm
    · have hwithin : Within size (s ||| step s) := by
        intro i hi
        rw [Nat.testBit_or, Bool.or_eq_true] at hi
        exact hi.elim (hs i) (h.within ha hs i)
      rw [ih _ hwithin j]
      simp only [Nat.testBit_or, Bool.or_eq_true, h s hs]
      constructor
      · rintro ⟨k, hk | ⟨i, hi, hik⟩, m, hm, hkj⟩
        · exact ⟨k, hk, m, by omega, hkj⟩
        · exact ⟨i, hi, m + 1, by omega, k, hik, hkj⟩
      · rintro ⟨i, hi, m, hm, hij⟩
        cases m with
        | zero => exact ⟨i, Or.inl hi, 0, Nat.zero_le _, hij⟩
        | succ m =>
          obtain ⟨k, hik, hkj⟩ := hij
          exact ⟨k, Or.inr ⟨i, hi, hik⟩, m, by omega, hkj⟩

end Leads

/-! ## Letters and edges -/

section Positions
variable {text before word after : List Char} {i j : Nat}

theorem testBit_push (s : Nat) (b : Bool) (i : Nat) :
    (s <<< 1 ||| b.toNat).testBit i = if i = 0 then b else s.testBit (i - 1) := by
  rw [Nat.testBit_or, Nat.testBit_shiftLeft]
  cases i with
  | zero => cases b <;> rfl
  | succ i =>
    have hbit : b.toNat.testBit (i + 1) = false := by
      cases b
      · exact Nat.zero_testBit _
      · simp [Nat.testBit_succ]
    simp [hbit]

theorem testBit_letterPositions (set : CharSet) (text : List Char) (i : Nat) :
    (letterPositions set text).testBit i = true ↔ ∃ c, text[i]? = some c ∧ set c = true := by
  induction text generalizing i with
  | nil => simp [letterPositions]
  | cons c text ih =>
    rw [letterPositions, testBit_push]
    cases i with
    | zero => simp
    | succ i => simpa using ih i

theorem testBit_edgePositions (e : Schemata.Edge) (start : Option Char) (text : List Char)
    (i : Nat) : (edgePositions e start text).testBit i = true ↔ i ≤ text.length ∧
      e ((text.take i).getLast?.or start) (text.drop i).head? = true := by
  induction text generalizing i start with
  | nil =>
    cases i with
    | zero => cases h : e start none <;> simp [edgePositions, h]
    | succ i => cases h : e start none <;> simp [edgePositions, h, Nat.testBit_succ]
  | cons c text ih =>
    rw [edgePositions, testBit_push]
    cases i with
    | zero => simp
    | succ i =>
      have hlast : ((c :: text.take i).getLast?.or start) = (text.take i).getLast?.or (some c) := by
        rw [List.getLast?_cons]
        cases (text.take i).getLast? <;> rfl
      simpa [hlast] using ih (some c) i

/-- A reading of the part of a text between two positions. -/
def Between (text : List Char) (R : Reading) (i j : Nat) : Prop :=
  ∃ before word after, text = before ++ (word ++ after) ∧ i = before.length ∧
    j = before.length + word.length ∧ R before word after

theorem ahead_between (text : List Char) (R : Reading) : Ahead text.length (Between text R) := by
  rintro i j ⟨before, word, after, rfl, rfl, rfl, -⟩
  simp

theorem between_empty : Between text (fun _ word _ => word = []) i j ↔ i ≤ text.length ∧ j = i := by
  constructor
  · rintro ⟨before, word, after, rfl, rfl, rfl, rfl⟩
    simp
  · rintro ⟨hi, rfl⟩
    exact ⟨text.take j, [], text.drop j, by simp, by simp [hi], by simp [hi], rfl⟩

theorem between_letter (set : CharSet) : Between text (Reads (.letter set)) i j ↔
    (∃ c, text[i]? = some c ∧ set c = true) ∧ j = i + 1 := by
  constructor
  · rintro ⟨before, word, after, rfl, rfl, rfl, c, rfl, hc⟩
    simpa using hc
  · rintro ⟨⟨c, hi, hc⟩, rfl⟩
    obtain ⟨hlt, rfl⟩ := List.getElem?_eq_some_iff.mp hi
    refine ⟨text.take i, [text[i]], text.drop (i + 1), ?_, ?_, ?_, _, rfl, hc⟩
    · rw [List.singleton_append, List.getElem_cons_drop, List.take_append_drop]
    · simp; omega
    · simp; omega

theorem between_edge (e : Schemata.Edge) : Between text (Reads (.edge e)) i j ↔
    (i ≤ text.length ∧ e (text.take i).getLast? (text.drop i).head? = true) ∧ j = i := by
  constructor
  · rintro ⟨before, word, after, rfl, rfl, rfl, rfl, he⟩
    simpa using he
  · rintro ⟨⟨hi, he⟩, rfl⟩
    exact ⟨text.take j, [], text.drop j, by simp, by simp [hi], by simp [hi], rfl, he⟩

theorem between_andThen (R S : Reading) :
    Between text (R.andThen S) i j ↔ ∃ k, Between text R i k ∧ Between text S k j := by
  constructor
  · rintro ⟨before, word, after, rfl, rfl, rfl, first, rest, rfl, hr, hs⟩
    refine ⟨before.length + first.length, ⟨before, first, rest ++ after, by simp, rfl, rfl, hr⟩, ?_⟩
    exact ⟨before ++ first, rest, after, by simp, by simp, by simp [Nat.add_assoc], hs⟩
  · rintro ⟨k, ⟨before, first, after, rfl, rfl, rfl, hr⟩, before', rest, after', ht, hk, rfl, hs⟩
    have hb : before ++ first = before' ∧ after = rest ++ after' := by
      rw [← List.append_assoc] at ht
      exact List.append_inj ht (by simpa using hk)
    obtain ⟨rfl, rfl⟩ := hb
    exact ⟨before, first ++ rest, after', by simp, rfl, by simp [Nat.add_assoc], first, rest, rfl,
      hr, hs⟩

theorem between_times (R : Reading) (n : Nat) :
    Between text (R.times n) i j ↔ i ≤ text.length ∧ Steps (Between text R) n i j := by
  induction n generalizing i with
  | zero => exact between_empty
  | succ n ih =>
    rw [Reading.times, between_andThen]
    constructor
    · rintro ⟨k, hk, hj⟩
      obtain ⟨hik, hks⟩ := ahead_between text R i k hk
      exact ⟨hik.trans hks, k, hk, (ih.mp hj).2⟩
    · rintro ⟨_, k, hk, hj⟩
      exact ⟨k, hk, ih.mpr ⟨(ahead_between text R i k hk).2, hj⟩⟩

theorem between_alt (r s : Regex CharSet Schemata.Edge) : Between text (Reads (.alt r s)) i j ↔
    Between text r.Reads i j ∨ Between text s.Reads i j := by
  constructor
  · rintro ⟨before, word, after, ht, hi, hj, hr | hs⟩
    · exact Or.inl ⟨before, word, after, ht, hi, hj, hr⟩
    · exact Or.inr ⟨before, word, after, ht, hi, hj, hs⟩
  · rintro (⟨before, word, after, ht, hi, hj, hr⟩ | ⟨before, word, after, ht, hi, hj, hs⟩)
    · exact ⟨before, word, after, ht, hi, hj, Or.inl hr⟩
    · exact ⟨before, word, after, ht, hi, hj, Or.inr hs⟩

theorem between_loop (r : Regex CharSet Schemata.Edge) (least : Nat) (more : Option Nat) :
    Between text (Reads (.loop r least more)) i j ↔ i ≤ text.length ∧ ∃ k,
      Steps (Between text r.Reads) least i k ∧
        ∃ m ≤ more.getD text.length, Steps (Between text r.Reads) m k j := by
  have ha := ahead_between text r.Reads
  constructor
  · rintro ⟨before, word, after, ht, hi, hj, n, hleast, hmore, hn⟩
    obtain ⟨m, rfl⟩ := Nat.exists_eq_add_of_le hleast
    obtain ⟨hi, hn⟩ := (between_times _ _).mp ⟨before, word, after, ht, hi, hj, hn⟩
    obtain ⟨k, hk, hkj⟩ := steps_add.mp hn
    refine ⟨hi, k, hk, ?_⟩
    cases more with
    | none =>
      obtain ⟨hik, hks⟩ := ha.steps hi hk
      obtain ⟨l, hl, hlj⟩ := ha.exists_steps_le hks hkj
      have hj := (ha.steps hks hkj).2
      rw [Option.getD_none]
      exact ⟨l, by omega, hlj⟩
    | some most =>
      have hmost := hmore most rfl
      rw [Option.getD_some]
      exact ⟨m, by omega, hkj⟩
  · rintro ⟨hi, k, hk, m, hm, hkj⟩
    obtain ⟨before, word, after, ht, hi, hj, hn⟩ :=
      (between_times r.Reads (least + m)).mpr ⟨hi, steps_add.mpr ⟨k, hk, hkj⟩⟩
    refine ⟨before, word, after, ht, hi, hj, least + m, by omega, ?_, hn⟩
    rintro most rfl
    simpa using hm

end Positions

/-! ## The search -/

/-- An expression with its letters and edges replaced by their positions in a text. -/
def placed (r : Regex CharSet Schemata.Edge) (text : List Char) : Regex Nat Nat :=
  r.map (letterPositions · text) (edgePositions · none text)

theorem leads_advance (r : Regex CharSet Schemata.Edge) (text : List Char) :
    Leads text.length ((r.placed text).advance text.length) (Between text r.Reads) := by
  induction r with
  | empty =>
    intro s hs j
    show s.testBit j = true ↔ ∃ i, s.testBit i = true ∧ Between text (fun _ word _ => word = []) i j
    simp only [between_empty]
    constructor
    · exact fun hj => ⟨j, hj, hs j hj, rfl⟩
    · rintro ⟨i, hi, _, rfl⟩
      exact hi
  | letter set =>
    intro s hs j
    show ((s &&& letterPositions set text) <<< 1).testBit j = true ↔ _
    simp only [between_letter, Nat.testBit_shiftLeft, Nat.testBit_and, Bool.and_eq_true,
      decide_eq_true_eq, testBit_letterPositions]
    constructor
    · rintro ⟨hj, hi, hc⟩
      exact ⟨j - 1, hi, hc, by omega⟩
    · rintro ⟨i, hi, hc, rfl⟩
      exact ⟨by omega, hi, hc⟩
  | edge e =>
    intro s hs j
    show (s &&& edgePositions e none text).testBit j = true ↔ _
    simp only [between_edge, Nat.testBit_and, Bool.and_eq_true, testBit_edgePositions,
      Option.or_none]
    constructor
    · rintro ⟨hj, he⟩
      exact ⟨j, hj, he, rfl⟩
    · rintro ⟨i, hi, he, rfl⟩
      exact ⟨hi, he⟩
  | seq r s ihr ihs =>
    intro starts hs j
    show ((s.placed text).advance text.length
      ((r.placed text).advance text.length starts)).testBit j = true ↔ _
    rw [ihs _ (ihr.within (ahead_between text _) hs) j]
    simp only [ihr starts hs, Reads, between_andThen]
    constructor
    · rintro ⟨k, ⟨i, hi, hik⟩, hkj⟩
      exact ⟨i, hi, k, hik, hkj⟩
    · rintro ⟨i, hi, k, hik, hkj⟩
      exact ⟨k, ⟨i, hi, hik⟩, hkj⟩
  | alt r s ihr ihs =>
    intro starts hs j
    show ((r.placed text).advance text.length starts |||
      (s.placed text).advance text.length starts).testBit j = true ↔ _
    rw [Nat.testBit_or, Bool.or_eq_true, ihr starts hs j, ihs starts hs j]
    simp only [between_alt, and_or_left, exists_or]
  | loop r least more ih =>
    intro starts hs j
    have ha := ahead_between text r.Reads
    have hleast := ih.repeated ha least starts hs
    have hwithin : Within text.length
        (repeated ((r.placed text).advance text.length) least starts) := by
      intro k hk
      obtain ⟨i, hi, hik⟩ := (hleast k).mp hk
      exact (ha.steps (hs i hi) hik).2
    show (spread ((r.placed text).advance text.length) (more.getD text.length)
      (repeated ((r.placed text).advance text.length) least starts)).testBit j = true ↔ _
    rw [ih.spread ha _ _ hwithin j]
    simp only [hleast, between_loop]
    constructor
    · rintro ⟨k, ⟨i, hi, hik⟩, hkj⟩
      exact ⟨i, hi, hs i hi, k, hik, hkj⟩
    · rintro ⟨i, hi, _, k, hik, hkj⟩
      exact ⟨k, ⟨i, hi, hik⟩, hkj⟩

/-- The search finds a match just when the expression reads some part of the text. -/
theorem isMatch_iff (r : Regex CharSet Schemata.Edge) (text : String) : r.isMatch text = true ↔
    ∃ before word after, text.toList = before ++ (word ++ after) ∧ r.Reads before word after := by
  have hall : ∀ i, (1 <<< (text.toList.length + 1) - 1).testBit i = true ↔
      i ≤ text.toList.length := by
    intro i
    rw [Nat.one_shiftLeft, Nat.testBit_two_pow_sub_one, decide_eq_true_eq, Nat.lt_succ_iff]
  have hends := leads_advance r text.toList (1 <<< (text.toList.length + 1) - 1) fun i =>
    (hall i).mp
  have hsome : r.isMatch text = true ↔ ∃ j, (r.ends text.toList).testBit j = true := by
    rw [isMatch, bne_iff_ne]
    constructor
    · exact Nat.exists_testBit_of_ne_zero
    · rintro ⟨j, hj⟩ hzero
      rw [hzero, Nat.zero_testBit] at hj
      cases hj
  rw [hsome]
  constructor
  · rintro ⟨j, hj⟩
    obtain ⟨i, _, before, word, after, ht, _, _, hr⟩ := (hends j).mp hj
    exact ⟨before, word, after, ht, hr⟩
  · rintro ⟨before, word, after, ht, hr⟩
    refine ⟨before.length + word.length, (hends _).mpr ⟨before.length, (hall _).mpr ?_, ?_⟩⟩
    · simp [ht]
    · exact ⟨before, word, after, ht, rfl, rfl, hr⟩

end Schemata.Regex
