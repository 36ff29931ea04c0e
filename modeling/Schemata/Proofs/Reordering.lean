import Schemata.Proofs.Matching
import Schemata.Rules.Array

/-! # Reordered values

A value whose objects have their entries in another order, at any depth, is the same to both
equalities of values, and so to everything that compares elements. The left side of a comparison is
read entry by entry, the right side is looked up by name, so only there must names be distinct.
-/
namespace Schemata

namespace Value

/-- The same value but for the order of the entries of its objects. In an object they are first put
into another order, `mid`, and then hold reordered values. -/
inductive Reordered : Value → Value → Prop
  | refl (v : Value) : Reordered v v
  | array {items others : List Value} (length : items.length = others.length)
    (each : ∀ v w, (v, w) ∈ items.zip others → Reordered v w) :
    Reordered (.array items) (.array others)
  | object {entries mid others : List (String × Value)} (perm : entries.Perm mid)
    (names : mid.map Prod.fst = others.map Prod.fst)
    (each : ∀ e f, (e, f) ∈ mid.zip others → Reordered e.2 f.2) :
    Reordered (.object entries) (.object others)

namespace Reordered
variable {v w : Value} {items others : List Value} {entries members : List (String × Value)}

theorem array_of_forall₂ (h : List.Forall₂ Reordered items others) :
    Reordered (.array items) (.array others) := by
  obtain ⟨hl, he⟩ := List.forall₂_iff_zip.mp h
  exact .array hl fun v w hm => he hm

theorem object_of_matches (h : Matches (Named Reordered) entries members) :
    Reordered (.object entries) (.object members) := by
  obtain ⟨mid, hp, hm⟩ := h
  obtain ⟨hn, he⟩ := forall₂_named_iff.mp hm
  exact .object hp hn he

theorem object_of_perm (h : entries.Perm members) :
    Reordered (.object entries) (.object members) :=
  object_of_matches ⟨members, h, List.forall₂_same.mpr fun e _ => ⟨rfl, .refl e.2⟩⟩

theorem forall₂_of_array (h : Reordered (.array items) w) :
    ∃ others, w = .array others ∧ List.Forall₂ Reordered items others := by
  cases h with
  | refl => exact ⟨items, rfl, List.forall₂_same.mpr fun v _ => .refl v⟩
  | @array _ others length each =>
    exact ⟨others, rfl, List.forall₂_iff_zip.mpr ⟨length, fun hm => each _ _ hm⟩⟩

theorem matches_of_object (h : Reordered (.object entries) w) :
    ∃ members, w = .object members ∧ Matches (Named Reordered) entries members := by
  cases h with
  | refl =>
    exact ⟨entries, rfl, .of_forall₂ (List.forall₂_same.mpr fun e _ => ⟨rfl, .refl e.2⟩)⟩
  | @object _ mid members perm names each =>
    exact ⟨members, rfl, mid, perm, forall₂_named_iff.mpr ⟨names, each⟩⟩

theorem getD {x y : Option Value} (h : Option.Rel Reordered x y) (v : Value) :
    Reordered (x.getD v) (y.getD v) := by
  cases h with
  | none => exact .refl v
  | some h => exact h

theorem kind_eq (h : Reordered v w) : Kind.of (some v) = Kind.of (some w) := by
  cases h <;> rfl

end Reordered

/-! ## Comparing -/

section Agree
variable {numbers : Number → Number → Bool}

theorem agreeEntries_eq_all (es fs : List (String × Value)) : agreeEntries numbers es fs =
    es.all fun e => (fs.lookup e.1).any (agree numbers e.2) := by
  induction es with
  | nil => rfl
  | cons e es ih =>
    rw [agreeEntries, ih, List.all_cons]
    cases fs.lookup e.1 <;> rfl

theorem agreeItems_congr_left {items others : List Value}
    (h : List.Forall₂ (fun v w => ∀ u, agree numbers v u = agree numbers w u) items others)
    (us : List Value) : agreeItems numbers items us = agreeItems numbers others us := by
  induction h generalizing us with
  | nil => rfl
  | cons hvw _ ih => cases us with
    | nil => rfl
    | cons u us => rw [agreeItems, agreeItems, hvw u, ih us]

theorem agreeItems_congr_right {items others : List Value}
    (h : List.Forall₂ (fun v w => ∀ u, agree numbers u v = agree numbers u w) items others)
    (us : List Value) : agreeItems numbers us items = agreeItems numbers us others := by
  induction h generalizing us with
  | nil => rfl
  | cons hvw _ ih => cases us with
    | nil => rfl
    | cons u us => rw [agreeItems, agreeItems, hvw u, ih us]

theorem agree_reordered_left {v w : Value} (h : Reordered v w) (u : Value) :
    agree numbers v u = agree numbers w u := by
  induction h generalizing u with
  | refl v => rfl
  | @array items others length each ih =>
    cases u with
    | array us =>
      exact agreeItems_congr_left (List.forall₂_iff_zip.mpr ⟨length, fun hm => ih _ _ hm⟩) us
    | _ => rfl
  | @object entries mid others perm names each ih =>
    cases u with
    | object us =>
      have hm : Matches (Named fun v w => ∀ u, agree numbers v u = agree numbers w u)
          entries others := ⟨mid, perm, forall₂_named_iff.mpr ⟨names, ih⟩⟩
      have ha := hm.all_eq (f := fun e => (us.lookup e.1).any (agree numbers e.2))
        (g := fun e => (us.lookup e.1).any (agree numbers e.2)) fun e f ⟨hn, hv⟩ => by
          rw [hn, funext hv]
      simp only [agree, agreeEntries_eq_all, hm.length_eq, ha]
    | _ => rfl

theorem agree_reordered_right {v w : Value} (h : Reordered v w) (hd : v.Distinct) (u : Value) :
    agree numbers u v = agree numbers u w := by
  induction h generalizing u with
  | refl v => rfl
  | @array items others length each ih =>
    cases hd with
    | array hd =>
      cases u with
      | array us =>
        refine agreeItems_congr_right (List.forall₂_iff_zip.mpr ⟨length, fun {v w} hm => ?_⟩) us
        exact ih v w hm (hd v (List.of_mem_zip hm).1)
      | _ => rfl
  | @object entries mid others perm names each ih =>
    cases hd with
    | object hn hd =>
      cases u with
      | object us =>
        have hm : Matches (Named fun v w => ∀ u, agree numbers u v = agree numbers u w)
            entries others := by
          refine ⟨mid, perm, forall₂_named_iff.mpr ⟨names, fun e f hm => ?_⟩⟩
          exact ih e f hm (hd e (perm.mem_iff.mpr (List.of_mem_zip hm).1))
        -- Names are distinct, so the entries are looked up alike.
        have ha : ∀ e : String × Value, (entries.lookup e.1).any (agree numbers e.2) =
            (others.lookup e.1).any (agree numbers e.2) :=
          fun e => any_eq_of_rel (hm.lookup hn e.1) fun v w hvw => hvw e.2
        simp only [agree, agreeEntries_eq_all, hm.length_eq, ha]
      | _ => rfl

end Agree

theorem same_reordered {v v' w w' : Value} (hv : Reordered v v') (hw : Reordered w w')
    (hd : w.Distinct) : v.same w = v'.same w' :=
  (agree_reordered_left hv w).trans (agree_reordered_right hw hd v')

end Value

/-! ## Repetitions -/

theorem repetitionsAfter_reordered {earlier earlier' items others : List Value}
    (he : List.Forall₂ Value.Reordered earlier earlier')
    (h : List.Forall₂ Value.Reordered items others) (hd : ∀ v ∈ items, v.Distinct)
    (position : Nat) :
    repetitionsAfter earlier position items = repetitionsAfter earlier' position others := by
  induction h generalizing earlier earlier' position with
  | nil => rfl
  | @cons v w items others hvw _ ih =>
    have hany : earlier.any (·.same v) = earlier'.any (·.same w) :=
      (Matches.of_forall₂ he).any_eq fun a b hab =>
        Value.same_reordered hab hvw (hd v List.mem_cons_self)
    have hrest := ih (List.rel_append he (.cons hvw .nil))
      (fun u hu => hd u (List.mem_cons_of_mem v hu)) (position + 1)
    rw [repetitionsAfter, repetitionsAfter, hany, hrest]

theorem ArrayConstraint.violation_reordered {items others : List Value} (c : ArrayConstraint)
    (h : List.Forall₂ Value.Reordered items others) (hd : ∀ v ∈ items, v.Distinct) :
    c.violation items = c.violation others := by
  cases c with
  | unique => simp only [violation, repetitions, repetitionsAfter_reordered .nil h hd 0]
  | _ => exact violation_congr (by simp) h.length_eq

end Schemata
