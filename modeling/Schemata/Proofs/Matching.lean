import Mathlib.Data.List.Nodup
import Mathlib.Data.List.Perm.Subperm
import Schemata.Entries

/-! # Lists that match

Two lists match under a relation when the members of the one, put in some order, are related to
those of the other one by one. Entries that match hold related values under the same names, so they
are looked up alike wherever no name is written twice.
-/
namespace Schemata

section Matches
variable {α β γ δ : Type} {R : α → β → Prop} {S : γ → δ → Prop} {l l' : List α} {m m' : List β}

def Matches (R : α → β → Prop) (l : List α) (m : List β) : Prop :=
  ∃ k, l.Perm k ∧ List.Forall₂ R k m

theorem Matches.of_forall₂ (h : List.Forall₂ R l m) : Matches R l m := ⟨l, .refl l, h⟩

theorem Matches.length_eq (h : Matches R l m) : l.length = m.length := by
  obtain ⟨k, hp, hk⟩ := h
  exact hp.length_eq.trans hk.length_eq

theorem Matches.exists_left (h : Matches R l m) {b : β} (hb : b ∈ m) : ∃ a ∈ l, R a b := by
  obtain ⟨k, hp, hk⟩ := h
  obtain ⟨hl, hg⟩ := List.forall₂_iff_get.mp hk
  obtain ⟨⟨i, hi⟩, rfl⟩ := List.mem_iff_get.mp hb
  exact ⟨k.get ⟨i, hl ▸ hi⟩, hp.mem_iff.mpr (List.get_mem k _), hg i (hl ▸ hi) hi⟩

theorem Matches.exists_right (h : Matches R l m) {a : α} (ha : a ∈ l) : ∃ b ∈ m, R a b := by
  obtain ⟨k, hp, hk⟩ := h
  obtain ⟨hl, hg⟩ := List.forall₂_iff_get.mp hk
  obtain ⟨⟨i, hi⟩, rfl⟩ := List.mem_iff_get.mp (hp.mem_iff.mp ha)
  exact ⟨m.get ⟨i, hl ▸ hi⟩, List.get_mem m _, hg i hi (hl ▸ hi)⟩

theorem Matches.imp {T : α → β → Prop} (h : Matches R l m) (hT : ∀ a b, R a b → T a b) :
    Matches T l m := by
  obtain ⟨k, hp, hk⟩ := h
  exact ⟨k, hp, hk.imp hT⟩

theorem forall₂_mem (h : List.Forall₂ R l m) :
    List.Forall₂ (fun a b => a ∈ l ∧ b ∈ m ∧ R a b) l m := by
  obtain ⟨hl, hz⟩ := List.forall₂_iff_zip.mp h
  refine List.forall₂_iff_zip.mpr ⟨hl, fun {a b} hab => ?_⟩
  exact ⟨(List.of_mem_zip hab).1, (List.of_mem_zip hab).2, hz hab⟩

theorem forall₂_comp {p : List γ} {T : β → γ → Prop} (h : List.Forall₂ R l m)
    (h' : List.Forall₂ T m p) : List.Forall₂ (fun a c => ∃ b, R a b ∧ T b c) l p := by
  induction h generalizing p with
  | nil => cases h'; exact .nil
  | cons hab _ ih =>
    obtain _ | ⟨hbc, hp⟩ := h'
    exact .cons ⟨_, hab, hbc⟩ (ih hp)

theorem exists_forall₂ (h : ∀ a ∈ l, ∃ b ∈ m, R a b) : ∃ k, List.Forall₂ R l k ∧ k ⊆ m := by
  induction l with
  | nil => exact ⟨[], .nil, List.nil_subset m⟩
  | cons a l ih =>
    obtain ⟨b, hb, hab⟩ := h a List.mem_cons_self
    obtain ⟨k, hk, hkm⟩ := ih fun c hc => h c (List.mem_cons_of_mem a hc)
    exact ⟨b :: k, .cons hab hk, List.cons_subset.mpr ⟨hb, hkm⟩⟩

theorem Matches.mem (h : Matches R l m) : Matches (fun a b => a ∈ l ∧ b ∈ m ∧ R a b) l m := by
  obtain ⟨k, hp, hk⟩ := h
  exact ⟨k, hp, (forall₂_mem hk).imp fun a b ⟨ha, hb, hab⟩ => ⟨hp.mem_iff.mpr ha, hb, hab⟩⟩

theorem Matches.symm (h : Matches R l m) : Matches (flip R) m l := by
  obtain ⟨k, hp, hk⟩ := h
  obtain ⟨k', hk', hp'⟩ := List.perm_comp_forall₂ hp hk
  exact ⟨k', hp'.symm, hk'.flip⟩

theorem Matches.comp {p : List γ} {T : β → γ → Prop} (h : Matches R l m) (h' : Matches T m p) :
    Matches (fun a c => ∃ b, R a b ∧ T b c) l p := by
  obtain ⟨k, hp, hk⟩ := h
  obtain ⟨k', hp', hk'⟩ := h'
  obtain ⟨j, hj, hjk⟩ := List.perm_comp_forall₂ hp'.symm hk.flip
  exact ⟨j, hp.trans hjk.symm, forall₂_comp hj.flip hk'⟩

theorem Matches.and_left {P : α → Prop} (h : Matches R l m) (hP : ∀ a ∈ l, P a) :
    Matches (fun a b => P a ∧ R a b) l m := by
  obtain ⟨k, hp, hk⟩ := h
  exact ⟨k, hp, (List.forall₂_and_left k m).mpr ⟨fun a ha => hP a (hp.mem_iff.mpr ha), hk⟩⟩

theorem Matches.append (h : Matches R l m) (h' : Matches R l' m') :
    Matches R (l ++ l') (m ++ m') := by
  obtain ⟨k, hp, hk⟩ := h
  obtain ⟨k', hp', hk'⟩ := h'
  exact ⟨k ++ k', hp.append hp', List.rel_append hk hk'⟩

theorem Matches.filter {keep : α → Bool} {keep' : β → Bool} (h : Matches R l m)
    (hkeep : ∀ a b, R a b → keep a = keep' b) : Matches R (l.filter keep) (m.filter keep') := by
  obtain ⟨k, hp, hk⟩ := h
  refine ⟨k.filter keep, hp.filter keep, List.rel_filter ?_ hk⟩
  intro a b hab
  simp only [hkeep a b hab]

theorem Matches.filterMap {f : α → Option γ} {g : β → Option δ} (h : Matches R l m)
    (hfg : ∀ a b, R a b → Option.Rel S (f a) (g b)) :
    Matches S (l.filterMap f) (m.filterMap g) := by
  obtain ⟨k, hp, hk⟩ := h
  exact ⟨k.filterMap f, hp.filterMap f, List.rel_filterMap (fun {a b} hab => hfg a b hab) hk⟩

theorem Matches.map_perm {f : α → γ} {g : β → γ} (h : Matches R l m)
    (hfg : ∀ a b, R a b → f a = g b) : (l.map f).Perm (m.map g) := by
  obtain ⟨k, hp, hk⟩ := h
  have hkm : List.Forall₂ Eq (k.map f) (m.map g) :=
    List.rel_map (fun {a b} hab => hfg a b hab) hk
  rw [List.forall₂_eq_eq_eq] at hkm
  exact hkm ▸ hp.map f

theorem Matches.flatMap_perm {f : α → List γ} {g : β → List γ} (h : Matches R l m)
    (hfg : ∀ a b, R a b → (f a).Perm (g b)) : (l.flatMap f).Perm (m.flatMap g) := by
  obtain ⟨k, hp, hk⟩ := h
  have hkm : (k.flatMap f).Perm (m.flatMap g) := by
    clear hp
    induction hk with
    | nil => exact .refl _
    | cons hab _ ih => exact (hfg _ _ hab).append ih
  exact (hp.flatMap_right f).trans hkm

theorem Matches.all_eq {f : α → Bool} {g : β → Bool} (h : Matches R l m)
    (hfg : ∀ a b, R a b → f a = g b) : l.all f = m.all g := by
  have hp := (h.map_perm hfg).all_eq (f := id)
  simpa using hp

theorem Matches.any_eq {f : α → Bool} {g : β → Bool} (h : Matches R l m)
    (hfg : ∀ a b, R a b → f a = g b) : l.any f = m.any g := by
  have hp := (h.map_perm hfg).any_eq (f := id)
  simpa using hp

theorem any_eq_of_rel {f : α → Bool} {g : β → Bool} {x : Option α} {y : Option β}
    (h : Option.Rel R x y) (hfg : ∀ a b, R a b → f a = g b) : x.any f = y.any g := by
  cases h with
  | none => rfl
  | some hab => exact hfg _ _ hab

theorem forall₂_zipIdx (h : List.Forall₂ R l m) (n : Nat) :
    List.Forall₂ (fun a b => R a.1 b.1 ∧ a.2 = b.2) (l.zipIdx n) (m.zipIdx n) := by
  induction h generalizing n with
  | nil => exact .nil
  | cons hab _ ih => exact .cons ⟨hab, rfl⟩ (ih (n + 1))

theorem forall₂_append_left {a : α} (h : List.Forall₂ R (l ++ a :: l') m) :
    ∃ k b k', m = k ++ b :: k' ∧ List.Forall₂ R l k ∧ R a b ∧ List.Forall₂ R l' k' := by
  induction l generalizing m with
  | nil =>
    obtain ⟨b, k', hab, hk, rfl⟩ := List.forall₂_cons_left_iff.mp h
    exact ⟨[], b, k', rfl, .nil, hab, hk⟩
  | cons c l ih =>
    obtain ⟨d, m, hcd, hm, rfl⟩ := List.forall₂_cons_left_iff.mp h
    obtain ⟨k, b, k', rfl, hk, hab, hk'⟩ := ih hm
    exact ⟨d :: k, b, k', rfl, .cons hcd hk, hab, hk'⟩

end Matches

/-! ## Entries -/

section Entries
variable {α β : Type} {R : α → β → Prop} {es : List (String × α)} {fs : List (String × β)}

def Named (R : α → β → Prop) (e : String × α) (f : String × β) : Prop := e.1 = f.1 ∧ R e.2 f.2

theorem rel_map_named {name other : String} {x : Option α} {y : Option β} (hn : name = other)
    (h : Option.Rel R x y) :
    Option.Rel (Named R) (x.map fun a => (name, a)) (y.map fun b => (other, b)) := by
  cases h with
  | none => exact .none
  | some hab => exact .some ⟨hn, hab⟩

theorem forall₂_named_iff : List.Forall₂ (Named R) es fs ↔
    es.map Prod.fst = fs.map Prod.fst ∧ ∀ e f, (e, f) ∈ es.zip fs → R e.2 f.2 := by
  rw [← List.forall₂_eq_eq_eq, List.forall₂_map_left_iff, List.forall₂_map_right_iff]
  simp only [List.forall₂_iff_zip, Named]
  constructor
  · rintro ⟨hl, h⟩
    exact ⟨⟨hl, fun hm => (h hm).1⟩, fun e f hm => (h hm).2⟩
  · rintro ⟨⟨hl, hn⟩, h⟩
    exact ⟨hl, fun hm => ⟨hn hm, h _ _ hm⟩⟩

theorem Entries.Distinct.lookup_eq_some_iff (h : Entries.Distinct es) {name : String} {a : α} :
    es.lookup name = some a ↔ (name, a) ∈ es :=
  ⟨mem_of_lookup, fun hm => h.lookup_of_mem hm⟩

theorem Entries.Distinct.perm {others : List (String × α)} (h : Entries.Distinct es)
    (hp : es.Perm others) : Entries.Distinct others := (hp.map Prod.fst).nodup_iff.mp h

theorem Entries.Distinct.lookup_perm {others : List (String × α)} (h : Entries.Distinct es)
    (hp : es.Perm others) (name : String) : es.lookup name = others.lookup name := by
  apply Option.ext
  intro a
  rw [h.lookup_eq_some_iff, (h.perm hp).lookup_eq_some_iff, hp.mem_iff]

theorem Matches.lookup (h : Matches (Named R) es fs) (hd : Entries.Distinct es) (name : String) :
    Option.Rel R (es.lookup name) (fs.lookup name) := by
  obtain ⟨k, hp, hk⟩ := h
  rw [hd.lookup_perm hp]
  clear hp
  induction hk with
  | nil => exact .none
  | @cons e f es fs hef _ ih =>
    obtain ⟨n, a⟩ := e
    obtain ⟨n', b⟩ := f
    obtain ⟨rfl, hab⟩ : n = n' ∧ R a b := hef
    rw [List.lookup_cons, List.lookup_cons]
    split
    · exact .some hab
    · exact ih

/-- Entries that are all found by name, among as many, match: no two of them find the same one. -/
theorem matches_of_lookup (hd : Entries.Distinct es) (hl : es.length = fs.length)
    (h : ∀ e ∈ es, ∃ b, fs.lookup e.1 = some b ∧ R e.2 b) : Matches (Named R) es fs := by
  have hfound : ∀ e ∈ es, ∃ f ∈ fs, Named R e f := by
    intro e he
    obtain ⟨b, hb, hR⟩ := h e he
    exact ⟨(e.1, b), Entries.mem_of_lookup hb, rfl, hR⟩
  obtain ⟨k, hk, hkm⟩ := exists_forall₂ hfound
  have hnames : (k.map Prod.fst).Nodup := (forall₂_named_iff.mp hk).1 ▸ hd
  have hnodup : k.Nodup := .of_map Prod.fst hnames
  have hlen : fs.length ≤ k.length := Nat.le_of_eq (hl.symm.trans hk.length_eq)
  have hperm : k.Perm fs := (List.Nodup.subperm hnodup hkm).perm_of_length_le hlen
  have hback : Matches (flip (Named R)) fs es := ⟨k, hperm.symm, hk.flip⟩
  exact hback.symm

end Entries
end Schemata
