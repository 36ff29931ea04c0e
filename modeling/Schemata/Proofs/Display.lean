import Schemata.Path

/-! # Displayed paths

After the first segment each one opens with a dot or with a bracket. No ordinary key holds one of
these, so in the text of a path each key ends where the next segment opens, and each index ends at
its closing bracket: the text tells the segments apart. A key that holds a dot or brackets of its
own is displayed as other segments are, and an empty leading key is not displayed at all.
-/
namespace Schemata

/-- Where two texts each have a part of letters of one kind and then end or go on with another kind,
the parts are the same when the texts are. -/
theorem append_inj_of_ends {α : Type} {p : α → Prop} {word other rest rest' : List α}
    (hw : ∀ a ∈ word, p a) (ho : ∀ a ∈ other, p a) (hr : ∀ a ∈ rest.head?, ¬ p a)
    (hr' : ∀ a ∈ rest'.head?, ¬ p a) (h : word ++ rest = other ++ rest') :
    word = other ∧ rest = rest' := by
  induction word generalizing other with
  | nil =>
    cases other with
    | nil => exact ⟨rfl, h⟩
    | cons b other =>
      obtain rfl : rest = b :: (other ++ rest') := h
      exact absurd (ho b List.mem_cons_self) (hr b rfl)
  | cons a word ih =>
    cases other with
    | nil =>
      obtain rfl : a :: (word ++ rest) = rest' := h
      exact absurd (hw a List.mem_cons_self) (hr' a rfl)
    | cons b other =>
      obtain ⟨rfl, htail⟩ := List.cons_eq_cons.mp h
      have hw' := (List.forall_mem_cons.mp hw).2
      have ho' := (List.forall_mem_cons.mp ho).2
      obtain ⟨rfl, rfl⟩ := ih hw' ho' htail
      exact ⟨rfl, rfl⟩

namespace Segment

/-- A letter with which a segment opens that is not the first. -/
def Opens (c : Char) : Prop := c = '.' ∨ c = '['

def Ordinary : Segment → Prop
  | .key name => name ≠ "" ∧ '.' ∉ name.toList ∧ '[' ∉ name.toList
  | .index _ => True

instance : DecidablePred Ordinary
  | .key name => inferInstanceAs (Decidable (name ≠ "" ∧ '.' ∉ name.toList ∧ '[' ∉ name.toList))
  | .index _ => isTrue trivial

theorem not_opens_of_mem_key {name : String} (h : (key name).Ordinary) :
    ∀ c ∈ name.toList, ¬ Opens c := by
  rintro c hc (rfl | rfl)
  · exact h.2.1 hc
  · exact h.2.2 hc

end Segment

namespace Path

/-- All keys are non-empty and hold no letter with which a segment opens. -/
def Ordinary (p : Path) : Prop := ∀ s ∈ p, s.Ordinary

instance (p : Path) : Decidable p.Ordinary := inferInstanceAs (Decidable (∀ s ∈ p, s.Ordinary))

/-- The letters of the segments when another one stands before them. -/
def trail (p : Path) : List Char := p.flatMap fun s => s.following.toList

theorem trail_key (name : String) (p : Path) :
    trail (.key name :: p) = '.' :: (name.toList ++ trail p) := by
  simp [trail, Segment.following]

theorem trail_index (i : Nat) (p : Path) :
    trail (.index i :: p) = '[' :: ((Segment.index i).rendered.toList ++ ']' :: trail p) := by
  simp [trail, Segment.following, Segment.rendered]

theorem opens_of_mem_head? {p : Path} : ∀ c ∈ (trail p).head?, Segment.Opens c := by
  intro c hc
  match p with
  | [] => cases hc
  | .key name :: p =>
    rw [trail_key] at hc
    cases hc
    exact Or.inl rfl
  | .index i :: p =>
    rw [trail_index] at hc
    cases hc
    exact Or.inr rfl

variable {p q : Path}

theorem key_and_trail_inj {name other : String} (hn : (Segment.key name).Ordinary)
    (ho : (Segment.key other).Ordinary) (h : name.toList ++ trail p = other.toList ++ trail q) :
    name = other ∧ trail p = trail q := by
  have hend (r : Path) : ∀ c ∈ (trail r).head?, ¬ ¬ Segment.Opens c := fun c hc =>
    not_not_intro (opens_of_mem_head? c hc)
  obtain ⟨hname, htrail⟩ := append_inj_of_ends (Segment.not_opens_of_mem_key hn)
    (Segment.not_opens_of_mem_key ho) (hend p) (hend q) h
  exact ⟨String.toList_inj.mp hname, htrail⟩

theorem index_and_trail_inj {i j : Nat} (h : (Segment.index i).rendered.toList ++ ']' :: trail p =
    (Segment.index j).rendered.toList ++ ']' :: trail q) : i = j ∧ trail p = trail q := by
  have hend (rest : List Char) : ∀ c ∈ (']' :: rest).head?, ¬ c.isDigit = true := by
    intro c hc
    cases hc
    decide
  obtain ⟨hij, hrest⟩ := append_inj_of_ends (fun c => Segment.isDigit_of_mem_rendered)
    (fun c => Segment.isDigit_of_mem_rendered) (hend _) (hend _) h
  exact ⟨Segment.index_eq_of_rendered_eq (String.toList_inj.mp hij), (List.cons_eq_cons.mp hrest).2⟩

theorem trail_inj (hp : p.Ordinary) (hq : q.Ordinary) (h : trail p = trail q) : p = q := by
  induction p generalizing q with
  | nil =>
    match q with
    | [] => rfl
    | .key other :: q => rw [trail_key] at h; cases h
    | .index j :: q => rw [trail_index] at h; cases h
  | cons s p ih =>
    obtain ⟨hs, hrest⟩ := List.forall_mem_cons.mp hp
    cases q with
    | nil =>
      cases s with
      | key name => rw [trail_key] at h; cases h
      | index i => rw [trail_index] at h; cases h
    | cons t q =>
      obtain ⟨ht, hrest'⟩ := List.forall_mem_cons.mp hq
      match s, t with
      | .key name, .key other =>
        rw [trail_key, trail_key] at h
        obtain ⟨rfl, htrail⟩ := key_and_trail_inj hs ht (List.cons_eq_cons.mp h).2
        rw [ih hrest hrest' htrail]
      | .index i, .index j =>
        rw [trail_index, trail_index] at h
        obtain ⟨rfl, htrail⟩ := index_and_trail_inj (List.cons_eq_cons.mp h).2
        rw [ih hrest hrest' htrail]
      | .key name, .index j =>
        rw [trail_key, trail_index] at h
        exact absurd (List.cons_eq_cons.mp h).1 (by decide)
      | .index i, .key other =>
        rw [trail_key, trail_index] at h
        exact absurd (List.cons_eq_cons.mp h).1 (by decide)

/-! ## The first segment -/

theorem toList_display_key (name : String) (p : Path) :
    (display (.key name :: p)).toList = name.toList ++ trail p := by
  simp [display, trail, List.flatMap_map]

theorem leads_with_key_or_trail (p : Path) :
    (∃ name rest, p = .key name :: rest) ∨ p.display.toList = trail p := by
  match p with
  | [] => exact Or.inr rfl
  | .key name :: rest => exact Or.inl ⟨name, rest, rfl⟩
  | .index i :: rest => exact Or.inr (by simp [display, trail, List.flatMap_map])

theorem display_ne_trail {name : String} (hn : (Segment.key name).Ordinary) (p q : Path) :
    (display (.key name :: p)).toList ≠ trail q := by
  intro h
  rw [toList_display_key] at h
  cases hl : name.toList with
  | nil => exact hn.1 (String.toList_eq_nil_iff.mp hl)
  | cons c cs =>
    have hc : c ∈ name.toList := by rw [hl]; exact List.mem_cons_self
    have hopen : c ∈ (trail q).head? := by rw [← h, hl]; rfl
    exact Segment.not_opens_of_mem_key hn c hc (opens_of_mem_head? c hopen)

theorem display_inj (hp : p.Ordinary) (hq : q.Ordinary) (h : p.display = q.display) : p = q := by
  have hl := String.toList_inj.mpr h
  obtain ⟨name, rest, rfl⟩ | htp := leads_with_key_or_trail p
  · obtain ⟨hn, hrest⟩ := List.forall_mem_cons.mp hp
    obtain ⟨other, rest', rfl⟩ | htq := leads_with_key_or_trail q
    · obtain ⟨ho, hrest'⟩ := List.forall_mem_cons.mp hq
      rw [toList_display_key, toList_display_key] at hl
      obtain ⟨rfl, htrail⟩ := key_and_trail_inj hn ho hl
      rw [trail_inj hrest hrest' htrail]
    · exact absurd (hl.trans htq) (display_ne_trail hn rest q)
  · obtain ⟨other, rest', rfl⟩ | htq := leads_with_key_or_trail q
    · obtain ⟨ho, _⟩ := List.forall_mem_cons.mp hq
      exact absurd (hl.symm.trans htp) (display_ne_trail ho rest' p)
    · exact trail_inj hp hq (htp.symm.trans (hl.trans htq))

/-! ## Keys that are not ordinary -/

/-- Different paths of one text. -/
def Confused (p q : Path) : Prop := p ≠ q ∧ p.display = q.display

theorem confused_of_toList (hne : p.length ≠ q.length)
    (h : p.display.toList = q.display.toList) : Confused p q :=
  ⟨fun heq => hne (congrArg List.length heq), String.toList_inj.mp h⟩

/-- A dot in a key is displayed as the one between two keys. -/
theorem confused_of_dot (name other : String) (p : Path) :
    Confused (.key (name ++ "." ++ other) :: p) (.key name :: .key other :: p) := by
  refine confused_of_toList (by simp) ?_
  rw [toList_display_key, toList_display_key, trail_key]
  simp

/-- A number in brackets at the end of a key is displayed as an index. -/
theorem confused_of_brackets (name : String) (i : Nat) (p : Path) :
    Confused (.key (name ++ "[" ++ toString i ++ "]") :: p) (.key name :: .index i :: p) := by
  refine confused_of_toList (by simp) ?_
  rw [toList_display_key, toList_display_key, trail_index]
  simp [Segment.rendered]

/-- An empty key in front of an index is not displayed. -/
theorem confused_of_empty (i : Nat) (p : Path) :
    Confused (.key "" :: .index i :: p) (.index i :: p) := by
  refine confused_of_toList (by simp) ?_
  rw [toList_display_key]
  simp [display, trail, List.flatMap_map]

end Path

/-- Paths with ordinary keys are displayed alike only when they are one path, segment by segment. A
dot in a key, a bracketed number at its end, or an empty key in front of an index confuses a path
with another one. -/
theorem paths_told_apart :
    (∀ p q : Path, p.Ordinary → q.Ordinary → (p.display = q.display ↔ p = q)) ∧
    (∀ name other rest, Path.Confused (.key (name ++ "." ++ other) :: rest)
      (.key name :: .key other :: rest)) ∧
    (∀ name i rest, Path.Confused (.key (name ++ "[" ++ toString i ++ "]") :: rest)
      (.key name :: .index i :: rest)) ∧
    (∀ i rest, Path.Confused (.key "" :: .index i :: rest) (.index i :: rest)) := by
  refine ⟨?_, Path.confused_of_dot, Path.confused_of_brackets, Path.confused_of_empty⟩
  intro p q hp hq
  constructor
  · exact Path.display_inj hp hq
  · rintro rfl
    rfl

/-- A closing bracket and digits in keys, and an index in front, next to their other readings. -/
theorem paths_told_apart_cells :
    let cell : Path := [.index 0, .key "1]", .index 2]
    let other : Path := [.index 0, .key "1]", .key "2"]
    cell.Ordinary ∧ other.Ordinary ∧ cell.display = "[0].1][2]" ∧ cell.display ≠ other.display := by
  intro cell other
  have hcell : cell.Ordinary := by decide
  have hother : other.Ordinary := by decide
  refine ⟨hcell, hother, rfl, fun h => ?_⟩
  exact absurd ((paths_told_apart.1 _ _ hcell hother).mp h) (by decide)

end Schemata
