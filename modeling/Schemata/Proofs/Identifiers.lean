import Schemata.Pattern
import Schemata.Pattern.Formats
import Schemata.Proofs.Acceptance
import Schemata.Proofs.Reading

/-! # The shape of unique identifiers

An identifier has thirty-six places, each with a choice of characters. The sets of its expression
are closed under a change of case beyond ASCII, but no character outside ASCII folds to a digit or
to one of the first letters, so the choices are digits, those letters in both cases and hyphens.
Both branches of the expression read only what stands between the ends of the text.
-/
namespace Schemata

/-- What holds of the characters of a list is decided on those, not on all characters. -/
local instance decidableForallMem {chars : List Char} {P : Char → Prop} [DecidablePred P] :
    Decidable (∀ c ∈ chars, P c) := List.decidableBAll P chars

/-! ## Sets closed under a change of case -/

namespace CharSet

/-- A character that no change of case moves, other than the null character. -/
def Settled (c : Char) : Prop :=
  c.toNat ≠ 0 ∧ ∀ r ∈ Unicode.foldRuns, r.moves c.toNat = false

instance (c : Char) : Decidable (Settled c) := inferInstanceAs (Decidable (_ ∧ _))

theorem toNat_ofNat_of_ne_zero {n : Nat} (h : (Char.ofNat n).toNat ≠ 0) :
    (Char.ofNat n).toNat = n := by
  by_cases hvalid : n.isValidChar
  · have heq : Char.ofNat n = Char.ofNatAux n hvalid := dif_pos hvalid
    rw [heq]
    rfl
  · exact absurd (congrArg Char.toNat (dif_neg hvalid)) h

theorem exists_of_foldCase {s : CharSet} (hs : ∀ d, s d = true → Settled d) {c : Char}
    (h : s.foldCase c = true) :
    ∃ d, s d = true ∧ (c = d ∨ c.toNat ∈ Unicode.unfoldings d.toNat) := by
  simp only [foldCase, Unicode.caseOrbit, List.map_cons, List.any_cons, List.any_map,
    Bool.or_eq_true, List.any_eq_true, Function.comp_apply] at h
  rcases h with hd | ⟨n, hn, hd⟩
  · refine ⟨_, hd, ?_⟩
    have hhub := toNat_ofNat_of_ne_zero (hs _ hd).1
    rw [hhub]
    rcases Unicode.eq_or_mem_unfoldings c.toNat with hself | hmem
    · left
      rw [hself, Char.ofNat_toNat]
    · exact Or.inr hmem
  · obtain ⟨hzero, hstays⟩ := hs _ hd
    have hcode := toNat_ofNat_of_ne_zero hzero
    rw [hcode] at hstays
    obtain ⟨r, hr, hmoves⟩ := Unicode.moves_of_mem_unfoldings hn
    rw [hstays r hr] at hmoves
    cases hmoves

/-- The characters from one to another. -/
def charsBetween (first last : Char) : List Char :=
  (List.range' first.toNat (last.toNat + 1 - first.toNat)).map Char.ofNat

theorem mem_charsBetween {first last c : Char} (h : range first last c = true) :
    c ∈ charsBetween first last := by
  rw [range, Bool.and_eq_true, decide_eq_true_eq, decide_eq_true_eq] at h
  have hfirst : first.toNat ≤ c.toNat := h.1
  have hlast : c.toNat ≤ last.toNat := h.2
  refine List.mem_map.mpr ⟨c.toNat, ?_, Char.ofNat_toNat c⟩
  rw [List.mem_range'_1]
  omega

theorem range_eq_union {first last : Char} (h : charsBetween first last = [first, last])
    (hle : first ≤ last) : range first last = (single first).union (single last) := by
  funext c
  rw [Bool.eq_iff_iff, union, Bool.or_eq_true, single, single, beq_iff_eq, beq_iff_eq]
  constructor
  · intro hc
    have hmem := mem_charsBetween hc
    rw [h] at hmem
    exact List.mem_pair.mp hmem
  · rintro (rfl | rfl)
    · simpa [range] using hle
    · simpa [range] using hle

theorem mem_of_union_range {first last first' last' c : Char}
    (h : ((range first last).union (range first' last')) c = true) :
    c ∈ charsBetween first last ++ charsBetween first' last' := by
  rw [union, Bool.or_eq_true] at h
  exact List.mem_append.mpr (h.imp mem_charsBetween mem_charsBetween)

theorem foldCase_iff {s : CharSet} (plain closed : List Char) (hs : ∀ c, s c = true → c ∈ plain)
    (hsettled : ∀ d ∈ plain, Settled d)
    (hclosed : ∀ d ∈ plain, d ∈ closed ∧ ∀ n ∈ Unicode.unfoldings d.toNat, Char.ofNat n ∈ closed)
    (hback : ∀ c ∈ closed, s.foldCase c = true) (c : Char) :
    s.foldCase c = true ↔ c ∈ closed := by
  refine ⟨fun h => ?_, hback c⟩
  obtain ⟨d, hd, rfl | hc⟩ := exists_of_foldCase (fun d hd => hsettled d (hs d hd)) h
  · exact (hclosed c (hs c hd)).1
  · have hmem := (hclosed d (hs d hd)).2 c.toNat hc
    rwa [Char.ofNat_toNat] at hmem

end CharSet

/-! ## Places -/

namespace Pattern
open Regex

def hexDigits : List Char := "0123456789abcdefABCDEF".toList

def versionDigits : List Char := "12345".toList

def variantDigits : List Char := "89abAB".toList

theorem hexSet_iff (c : Char) :
    ((CharSet.range '0' '9').union (CharSet.range 'a' 'f')).foldCase c = true ↔ c ∈ hexDigits :=
  CharSet.foldCase_iff _ _ (fun _ => CharSet.mem_of_union_range) (by decide +kernel)
    (by decide +kernel) (by decide +kernel) c

theorem variantSet_iff (c : Char) :
    ((CharSet.range '8' '9').union (CharSet.range 'a' 'b')).foldCase c = true ↔
      c ∈ variantDigits :=
  CharSet.foldCase_iff _ _ (fun _ => CharSet.mem_of_union_range) (by decide +kernel)
    (by decide +kernel) (by decide +kernel) c

theorem versionSet_iff (c : Char) : anyCase '1' '5' c = true ↔ c ∈ versionDigits :=
  CharSet.foldCase_iff _ _ (fun _ => CharSet.mem_charsBetween) (by decide +kernel)
    (by decide +kernel) (by decide +kernel) c

theorem zeroSet_iff (c : Char) : anyCase '0' '0' c = true ↔ c ∈ ['0'] :=
  CharSet.foldCase_iff _ _ (fun _ => CharSet.mem_charsBetween) (by decide +kernel)
    (by decide +kernel) (by decide +kernel) c

theorem singleSet_iff {d : Char} (hd : d ∈ ['0', '-']) (c : Char) :
    (CharSet.single d).foldCase c = true ↔ c ∈ [d] := by
  have hsettled : ∀ d ∈ ['0', '-'], CharSet.Settled d := by decide +kernel
  have hclosed : ∀ d ∈ ['0', '-'], ∀ n ∈ Unicode.unfoldings d.toNat, Char.ofNat n ∈ [d] := by
    decide +kernel
  have hback : ∀ d ∈ ['0', '-'], (CharSet.single d).foldCase d = true := by decide +kernel
  refine CharSet.foldCase_iff [d] [d] (fun c hc => ?_) ?_ ?_ ?_ c
  · exact List.mem_singleton.mpr (beq_iff_eq.mp hc)
  · exact List.forall_mem_singleton.mpr (hsettled d hd)
  · exact List.forall_mem_singleton.mpr ⟨List.mem_singleton_self d, hclosed d hd⟩
  · exact List.forall_mem_singleton.mpr (hback d hd)

theorem hyphenSet_iff (c : Char) : (CharSet.single '-').foldCase c = true ↔ c ∈ ['-'] :=
  singleSet_iff (by decide) c

def hyphenPlaces : List Nat := [8, 13, 18, 23]

/-- The characters at each place of an identifier with a version. -/
def versionedPlace (i : Nat) : List Char :=
  if i ∈ hyphenPlaces then ['-'] else if i = 14 then versionDigits
  else if i = 19 then variantDigits else hexDigits

def nilPlace (i : Nat) : List Char := if i ∈ hyphenPlaces then ['-'] else ['0']

theorem rigid_versioned : Rigid versioned ((List.range 36).map versionedPlace) := by
  have hplaces : (List.range 36).map versionedPlace =
      [List.replicate 8 hexDigits, [['-']], List.replicate 4 hexDigits, [['-']], [versionDigits],
        List.replicate 3 hexDigits, [['-']], [variantDigits], List.replicate 3 hexDigits, [['-']],
        List.replicate 12 hexDigits].flatten := by decide
  have hhex := rigid_times hexSet_iff
  have hhyphen := rigid_letter hyphenSet_iff
  rw [hplaces]
  exact rigid_concat (.cons (hhex 8) (.cons hhyphen (.cons (hhex 4) (.cons hhyphen
    (.cons (rigid_letter versionSet_iff) (.cons (hhex 3) (.cons hhyphen
      (.cons (rigid_letter variantSet_iff) (.cons (hhex 3) (.cons hhyphen
        (.cons (hhex 12) .nil)))))))))))

theorem rigid_nil : Rigid nil ((List.range 36).map nilPlace) := by
  have hplaces : (List.range 36).map nilPlace =
      [List.replicate 8 ['0'], [['-']], List.replicate 4 ['0'], [['-']], List.replicate 4 ['0'],
        [['-']], List.replicate 4 ['0'], [['-']], List.replicate 12 ['0']].flatten := by decide
  have hzero := rigid_times zeroSet_iff
  have hhyphen := rigid_letter hyphenSet_iff
  rw [hplaces]
  exact rigid_concat (.cons (hzero 8) (.cons hhyphen (.cons (hzero 4) (.cons hhyphen
    (.cons (hzero 4) (.cons hhyphen (.cons (hzero 4) (.cons hhyphen (.cons (hzero 12) .nil)))))))))

end Pattern

open Pattern in
/-- The shape of universally unique identifiers. -/
structure Identifier (text : List Char) : Prop where
  length : text.length = 36
  hyphens : ∀ i ∈ hyphenPlaces, text[i]? = some '-'
  digits : ∀ i < 36, i ∉ hyphenPlaces → ∃ c ∈ text[i]?, c ∈ hexDigits
  kind : ((∃ c ∈ text[14]?, c ∈ versionDigits) ∧ ∃ c ∈ text[19]?, c ∈ variantDigits) ∨
    ∀ i < 36, i ∉ hyphenPlaces → text[i]? = some '0'

namespace Pattern
open Regex

theorem exists_only_iff {o : Option Char} {d : Char} : (∃ c ∈ o, c ∈ [d]) ↔ o = some d := by
  simp

theorem mem_hexDigits {i : Nat} {c : Char} (hi : i ∉ hyphenPlaces) (h : c ∈ versionedPlace i) :
    c ∈ hexDigits := by
  have hversion : ∀ c ∈ versionDigits, c ∈ hexDigits := by decide
  have hvariant : ∀ c ∈ variantDigits, c ∈ hexDigits := by decide
  rw [versionedPlace, if_neg hi] at h
  split at h
  · exact hversion c h
  · split at h
    · exact hvariant c h
    · exact h

theorem identifier_iff {text : List Char} : Identifier text ↔
    Spells ((List.range 36).map versionedPlace) text ∨
      Spells ((List.range 36).map nilPlace) text := by
  have hplaces : ∀ i ∈ hyphenPlaces, i < 36 := by decide
  rw [spells_range, spells_range]
  constructor
  · rintro ⟨hlength, hhyphens, hdigits, ⟨hversion, hvariant⟩ | hzeros⟩
    · refine Or.inl ⟨hlength, fun i hi => ?_⟩
      unfold versionedPlace
      split
      · next h => exact exists_only_iff.mpr (hhyphens i h)
      · next h =>
        split
        · next h => exact h ▸ hversion
        · split
          · next h => exact h ▸ hvariant
          · exact hdigits i hi h
    · refine Or.inr ⟨hlength, fun i hi => ?_⟩
      unfold nilPlace
      split
      · next h => exact exists_only_iff.mpr (hhyphens i h)
      · next h => exact exists_only_iff.mpr (hzeros i hi h)
  · rintro (⟨hlength, h⟩ | ⟨hlength, h⟩)
    · refine ⟨hlength, fun i hi => ?_, fun i hi hne => ?_,
        Or.inl ⟨h 14 (by decide), h 19 (by decide)⟩⟩
      · have hplace := h i (hplaces i hi)
        rw [versionedPlace, if_pos hi] at hplace
        exact exists_only_iff.mp hplace
      · obtain ⟨c, hc, hmem⟩ := h i hi
        exact ⟨c, hc, mem_hexDigits hne hmem⟩
    · have hzeros : ∀ i < 36, i ∉ hyphenPlaces → text[i]? = some '0' := by
        intro i hi hne
        have hplace := h i hi
        rw [nilPlace, if_neg hne] at hplace
        exact exists_only_iff.mp hplace
      refine ⟨hlength, fun i hi => ?_, fun i hi hne => ⟨'0', hzeros i hi hne, by decide⟩,
        Or.inr hzeros⟩
      have hplace := h i (hplaces i hi)
      rw [nilPlace, if_pos hi] at hplace
      exact exists_only_iff.mp hplace

/-- The identifier of zeros, with each of its characters written out. -/
def nilText : List Char := "00000000-0000-0000-0000-000000000000".toList

def writtenNil : Expr := .concat (nilText.map fun c => .letter (CharSet.single c).foldCase)

theorem rigid_writtenNil : Rigid writtenNil ((List.range 36).map nilPlace) := by
  have hchars : ∀ c ∈ nilText, c ∈ ['0', '-'] := by decide
  have hplaces : (List.range 36).map nilPlace = (nilText.map fun c => [[c]]).flatten := by decide
  rw [hplaces]
  refine rigid_concat ?_
  rw [List.forall₂_map_left_iff, List.forall₂_map_right_iff, List.forall₂_same]
  exact fun c hc => rigid_letter (singleSet_iff (hchars c hc))

theorem isMatch_identifier_iff {r : Expr} (hr : Rigid r ((List.range 36).map nilPlace))
    (s : String) :
    Regex.isMatch (.concat [.edge textStart, .alt versioned r, .edge textEnd]) s = true ↔
      Identifier s.toList := by
  rw [isMatch_anchored_iff, identifier_iff, ← rigid_versioned [] s.toList [], ← hr [] s.toList []]
  exact Iff.rfl

/-! ## Letters and capitals -/

/-- A capital is thirty-two before its small letter, and every other character is small. -/
theorem eq_or_eq_of_toLower (c : Char) :
    c.toLower = c ∨ c.isUpper = true ∧ Char.ofNat (c.toLower.toNat - 32) = c := by
  by_cases h : 'A'.val ≤ c.val ∧ c.val ≤ 'Z'.val
  · right
    have hcapitals : ∀ n < 91, 65 ≤ n →
        Char.ofNat ((Char.ofNat n).toLower.toNat - 32) = Char.ofNat n := by decide
    have hback := hcapitals c.toNat (Nat.lt_succ_of_le h.2) h.1
    rw [Char.ofNat_toNat] at hback
    exact ⟨decide_eq_true h, hback⟩
  · exact Or.inl (dif_neg h)

/-- Each letter among the characters is there in both cases. -/
def Caseless (chars : List Char) : Prop :=
  ∀ d ∈ chars, d.toLower ∈ chars ∧
    ((Char.ofNat (d.toNat - 32)).isUpper = true → Char.ofNat (d.toNat - 32) ∈ chars)

instance (chars : List Char) : Decidable (Caseless chars) :=
  inferInstanceAs (Decidable (∀ d ∈ chars, _ ∧ (_ → _)))

theorem Caseless.mem_toLower_iff {chars : List Char} (h : Caseless chars) (c : Char) :
    c.toLower ∈ chars ↔ c ∈ chars := by
  refine ⟨fun hc => ?_, fun hc => (h c hc).1⟩
  rcases eq_or_eq_of_toLower c with heq | ⟨hupper, heq⟩
  · rwa [heq] at hc
  · have hback := (h _ hc).2
    rw [heq] at hback
    exact hback hupper

theorem spells_map_toLower {places : List (List Char)} (h : ∀ chars ∈ places, Caseless chars)
    {word : List Char} : Spells places (word.map Char.toLower) ↔ Spells places word := by
  rw [Spells, List.forall₂_map_left_iff]
  induction places generalizing word with
  | nil => simp [Spells]
  | cons chars places ih =>
    obtain ⟨hchars, hplaces⟩ := List.forall_mem_cons.mp h
    cases word with
    | nil => simp [Spells]
    | cons c word =>
      simp only [Spells] at ih
      simp only [Spells, List.forall₂_cons, hchars.mem_toLower_iff, ih hplaces]

theorem identifier_congr {text text' : List Char}
    (h : text.map Char.toLower = text'.map Char.toLower) : Identifier text ↔ Identifier text' := by
  have hversioned : ∀ chars ∈ (List.range 36).map versionedPlace, Caseless chars := by decide
  have hnil : ∀ chars ∈ (List.range 36).map nilPlace, Caseless chars := by decide
  rw [identifier_iff, identifier_iff, ← spells_map_toLower hversioned, ← spells_map_toLower hnil, h,
    spells_map_toLower hversioned, spells_map_toLower hnil]

/-! ## The text of the expression -/

def identifierText : String :=
  "^(?i:[0-9a-f]\x7b8\x7d-[0-9a-f]\x7b4\x7d-[1-5][0-9a-f]\x7b3\x7d-[89ab][0-9a-f]\x7b3\x7d-" ++
    "[0-9a-f]\x7b12\x7d|00000000-0000-0000-0000-000000000000)$"

theorem itemSet_variant : itemSet [CharSet.single '8', CharSet.single '9', CharSet.single 'a',
    CharSet.single 'b'] = (CharSet.range '8' '9').union (CharSet.range 'a' 'b') := by
  have hdigits : CharSet.range '8' '9' = _ := CharSet.range_eq_union (by decide) (by decide)
  have hletters : CharSet.range 'a' 'b' = _ := CharSet.range_eq_union (by decide) (by decide)
  rw [hdigits, hletters]
  funext c
  simp [itemSet, CharSet.union, Bool.or_assoc]

set_option maxRecDepth 4000 in
theorem ofText?_identifierText : ofText? identifierText = some ⟨identifierText,
    .concat [.edge textStart, .alt versioned writtenNil, .edge textEnd]⟩ := by
  have hread : ofText? identifierText = some ⟨identifierText, .concat [
      .edge Flags.standard.lineStart, .alt (.concat [
        (Regex.letter (itemSet [CharSet.range '0' '9', CharSet.range 'a' 'f']).foldCase).times 8,
        hyphen,
        (Regex.letter (itemSet [CharSet.range '0' '9', CharSet.range 'a' 'f']).foldCase).times 4,
        hyphen, .letter (itemSet [CharSet.range '1' '5']).foldCase,
        (Regex.letter (itemSet [CharSet.range '0' '9', CharSet.range 'a' 'f']).foldCase).times 3,
        hyphen, .letter (itemSet [CharSet.single '8', CharSet.single '9', CharSet.single 'a',
          CharSet.single 'b']).foldCase,
        (Regex.letter (itemSet [CharSet.range '0' '9', CharSet.range 'a' 'f']).foldCase).times 3,
        hyphen,
        (Regex.letter (itemSet [CharSet.range '0' '9', CharSet.range 'a' 'f']).foldCase).times 12])
        writtenNil, .edge Flags.standard.lineEnd]⟩ := by cbv
  rw [hread, lineStart_standard, lineEnd_standard, itemSet_pair, itemSet_single, itemSet_variant]
  rfl

end Pattern

theorem Identifier.ascii {text : List Char} (h : Identifier text) : ∀ c ∈ text, c.toNat < 128 := by
  have hhex : ∀ c ∈ Pattern.hexDigits, c.toNat < 128 := by decide
  intro c hc
  obtain ⟨i, hi, rfl⟩ := List.mem_iff_getElem.mp hc
  by_cases hp : i ∈ Pattern.hyphenPlaces
  · have heq := h.hyphens i hp
    rw [List.getElem?_eq_getElem hi, Option.some.injEq] at heq
    rw [heq]
    decide
  · obtain ⟨d, hd, hmem⟩ := h.digits i (h.length ▸ hi) hp
    obtain ⟨_, rfl⟩ := List.getElem?_eq_some_iff.mp hd
    exact hhex _ hmem

/-- Among strings the schema selects the identifiers, none of which has a character beyond ASCII,
and it makes no difference between letters and capitals. -/
structure Schema.SelectsIdentifiers (s : Schema) : Prop where
  passesIff : ∀ str : String, s.PassesIff (.string str) (Identifier str.toList)
  ascii : ∀ str : String, s.Passes (.string str) → ∀ c ∈ str.toList, c.toNat < 128
  caseless : ∀ str str' : String, str.toList.map Char.toLower = str'.toList.map Char.toLower →
    (s.Passes (.string str) ↔ s.Passes (.string str'))

theorem Schema.selectsIdentifiers {s : Schema}
    (h : ∀ str : String, s.PassesIff (.string str) (Identifier str.toList)) :
    s.SelectsIdentifiers where
  passesIff := h
  ascii str hp := ((h str).passes_iff.mp hp).ascii
  caseless str str' hcase := by
    rw [(h str).passes_iff, (h str').passes_iff]
    exact Pattern.identifier_congr hcase

/-- The format of identifiers selects them, and so does the pattern that is written for them. -/
theorem uuid_selects : (Schema.string (.uuid .none)).SelectsIdentifiers ∧
    ∃ rs, StringRules.pattern? .none Pattern.identifierText = some rs ∧
      (Schema.string rs).SelectsIdentifiers := by
  constructor
  · exact Schema.selectsIdentifiers fun str =>
      (Schema.passesIff_string_add .uuid str).congr
        (Pattern.isMatch_identifier_iff Pattern.rigid_nil str)
  · rw [StringRules.pattern?, Pattern.ofText?_identifierText]
    exact ⟨_, rfl, Schema.selectsIdentifiers fun str =>
      (Schema.passesIff_string_add (.pattern _) str).congr
        (Pattern.isMatch_identifier_iff Pattern.rigid_writtenNil str)⟩

end Schemata
