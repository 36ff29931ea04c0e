import Mathlib.Data.List.Forall2
import Schemata.Pattern.Flags
import Schemata.Proofs.Search

/-! # What common expressions read

Letters one after the other read words letter by letter, and the ends of a text are read only there.
An expression that is built of letters and of counted letters reads the words with a choice of
characters at each place, so that its words are known from their length and from each place.
-/
namespace Schemata

namespace Regex
variable {before word after : List Char} {set : CharSet}

theorem reads_seq {r s : Regex CharSet Edge} : Reads (.seq r s) before word after ↔
    ∃ first rest, word = first ++ rest ∧ r.Reads before first (rest ++ after) ∧
      s.Reads (before ++ first) rest after := Iff.rfl

theorem reads_single {c : Char} : Reads (.letter (CharSet.single c)) before word after ↔
    word = [c] := by
  simp [Reads, CharSet.single]

theorem reads_textStart : Reads (.edge Pattern.textStart) before word after ↔
    word = [] ∧ before = [] := by
  simp [Reads, Pattern.textStart]

theorem reads_textEnd : Reads (.edge Pattern.textEnd) before word after ↔
    word = [] ∧ after = [] := by
  simp [Reads, Pattern.textEnd]

theorem times_letter {n : Nat} : (Reads (.letter set)).times n before word after ↔
    word.length = n ∧ ∀ c ∈ word, set c = true := by
  induction n generalizing before word with
  | zero =>
    rw [Reading.times, List.length_eq_zero_iff]
    exact ⟨fun h => ⟨h, by simp [h]⟩, And.left⟩
  | succ n ih =>
    rw [Reading.times]
    constructor
    · rintro ⟨first, rest, rfl, ⟨c, rfl, hc⟩, hrest⟩
      obtain ⟨hl, hr⟩ := ih.mp hrest
      exact ⟨by simp [hl], by simpa [hc] using hr⟩
    · rintro ⟨hl, hw⟩
      cases word with
      | nil => cases hl
      | cons c word =>
        obtain ⟨hc, hw⟩ := List.forall_mem_cons.mp hw
        exact ⟨[c], word, rfl, ⟨c, rfl, hc⟩, ih.mpr ⟨by simpa using hl, hw⟩⟩

theorem reads_times_letter (n : Nat) : Reads (.times (.letter set) n) before word after ↔
    word.length = n ∧ ∀ c ∈ word, set c = true := by
  rw [Regex.times, Reads, ← times_letter]
  constructor
  · rintro ⟨m, hleast, hmore, hm⟩
    obtain rfl : m = n := Nat.le_antisymm (hmore 0 rfl) hleast
    exact hm
  · exact fun h => ⟨n, Nat.le_refl n, fun m _ => Nat.le_add_right n m, h⟩

theorem reads_plus_letter : Reads (.plus (.letter set)) before word after ↔
    word ≠ [] ∧ ∀ c ∈ word, set c = true := by
  rw [Regex.plus, Reads]
  constructor
  · rintro ⟨n, hn, -, h⟩
    obtain ⟨hl, hw⟩ := times_letter.mp h
    exact ⟨List.length_pos_iff.mp (by omega), hw⟩
  · rintro ⟨hne, hw⟩
    have hpos := List.length_pos_iff.mpr hne
    exact ⟨word.length, hpos, by simp, times_letter.mpr ⟨rfl, hw⟩⟩

theorem isMatch_anchored_iff (r : Regex CharSet Edge) (s : String) :
    isMatch (.concat [.edge Pattern.textStart, r, .edge Pattern.textEnd]) s = true ↔
      r.Reads [] s.toList [] := by
  rw [isMatch_iff]
  constructor
  · rintro ⟨before, word, after, ht, first, rest, rfl, hfirst, middle, last, rfl, hr, hlast⟩
    obtain ⟨rfl, rfl⟩ := reads_textStart.mp hfirst
    obtain ⟨rfl, rfl⟩ := reads_textEnd.mp hlast
    simp only [List.nil_append, List.append_nil] at ht hr
    rwa [ht]
  · intro h
    exact ⟨[], s.toList, [], by simp, [], s.toList, rfl, reads_textStart.mpr ⟨rfl, rfl⟩, s.toList,
      [], by simp, by simpa using h, reads_textEnd.mpr ⟨rfl, rfl⟩⟩

/-! ## Words with a choice of characters at each place -/

def Spells (places : List (List Char)) (word : List Char) : Prop :=
  List.Forall₂ (fun c chars => c ∈ chars) word places

/-- An expression that reads the words with these choices, wherever they stand. -/
def Rigid (r : Regex CharSet Edge) (places : List (List Char)) : Prop :=
  ∀ before word after, r.Reads before word after ↔ Spells places word

theorem rigid_letter {chars : List Char} (h : ∀ c, set c = true ↔ c ∈ chars) :
    Rigid (.letter set) [chars] := by
  intro before word after
  constructor
  · rintro ⟨c, rfl, hc⟩
    exact .cons ((h c).mp hc) .nil
  · rintro (_ | ⟨hc, _ | _⟩)
    exact ⟨_, rfl, (h _).mpr hc⟩

theorem spells_replicate {n : Nat} {chars : List Char} :
    Spells (List.replicate n chars) word ↔ word.length = n ∧ ∀ c ∈ word, c ∈ chars := by
  induction n generalizing word with
  | zero =>
    rw [Spells, List.replicate_zero, List.forall₂_nil_right_iff, List.length_eq_zero_iff]
    exact ⟨fun h => ⟨h, by simp [h]⟩, And.left⟩
  | succ n ih =>
    cases word with
    | nil => simp [Spells, List.replicate_succ]
    | cons c word =>
      simp only [Spells] at ih
      simp only [Spells, List.replicate_succ, List.forall₂_cons, ih, List.length_cons,
        List.forall_mem_cons, Nat.add_right_cancel_iff]
      exact and_left_comm

theorem rigid_times {chars : List Char} (h : ∀ c, set c = true ↔ c ∈ chars) (n : Nat) :
    Rigid (.times (.letter set) n) (List.replicate n chars) := by
  intro before word after
  simp only [reads_times_letter, spells_replicate, h]

theorem rigid_seq {r s : Regex CharSet Edge} {xs ys : List (List Char)} (hr : Rigid r xs)
    (hs : Rigid s ys) : Rigid (.seq r s) (xs ++ ys) := by
  intro before word after
  constructor
  · rintro ⟨first, rest, rfl, hfirst, hrest⟩
    exact List.rel_append ((hr _ _ _).mp hfirst) ((hs _ _ _).mp hrest)
  · intro h
    refine ⟨word.take xs.length, word.drop xs.length, by simp, (hr _ _ _).mpr ?_, (hs _ _ _).mpr ?_⟩
    · exact List.forall₂_take_append _ _ _ h
    · exact List.forall₂_drop_append _ _ _ h

theorem rigid_concat {rs : List (Regex CharSet Edge)} {places : List (List (List Char))}
    (h : List.Forall₂ Rigid rs places) : Rigid (concat rs) places.flatten := by
  induction h with
  | nil =>
    intro before word after
    simp [concat, Reads, Spells]
  | @cons r xs rs places hr hrest ih =>
    rw [List.flatten_cons]
    cases hrest with
    | nil =>
      rw [List.flatten_nil, List.append_nil]
      exact hr
    | cons _ _ => exact rigid_seq hr ih

theorem spells_range {n : Nat} {choice : Nat → List Char} :
    Spells ((List.range n).map choice) word ↔
      word.length = n ∧ ∀ i < n, ∃ c ∈ word[i]?, c ∈ choice i := by
  rw [Spells, List.forall₂_iff_get]
  simp only [List.length_map, List.length_range]
  refine and_congr_right fun hl => ?_
  constructor
  · intro h i hi
    exact ⟨word[i], by simp [hl, hi], by simpa using h i (hl ▸ hi) hi⟩
  · intro h i hi hi'
    obtain ⟨c, hc, hmem⟩ := h i hi'
    obtain ⟨_, rfl⟩ := List.getElem?_eq_some_iff.mp hc
    simpa using hmem

end Regex

/-! ## The texts of expressions -/

namespace Pattern

theorem lineStart_standard : Flags.standard.lineStart = textStart := by
  funext before after
  simp [Flags.lineStart, Flags.standard, textStart]

theorem lineEnd_standard : Flags.standard.lineEnd = textEnd := by
  funext before after
  simp [Flags.lineEnd, Flags.standard, textEnd]

/-- The set of the items of a class in brackets. -/
def itemSet (items : List CharSet) : CharSet := items.foldl CharSet.union fun _ => false

theorem itemSet_single (s : CharSet) : itemSet [s] = s := by
  funext c
  exact Bool.false_or _

theorem itemSet_pair (s t : CharSet) : itemSet [s, t] = s.union t := by
  funext c
  simp [itemSet, CharSet.union]

end Pattern
end Schemata
