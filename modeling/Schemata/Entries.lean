/-! # Entries in writing order

A finite map from names to values that remembers the order in which the names were first written.
Writing a name again keeps its place.
-/
namespace Schemata

abbrev Entries (α : Type) := List (String × α)

namespace Entries
variable {α β : Type}

def names (es : Entries α) : List String := es.map Prod.fst

def get? (es : Entries α) (name : String) : Option α := es.lookup name

def contains (es : Entries α) (name : String) : Bool := es.names.contains name

/-- Rewrite the value under `name` in its place, or write a new one at the end. -/
def alter (name : String) (f : Option α → α) : Entries α → Entries α
  | [] => [(name, f none)]
  | (m, a) :: rest => if m = name then (m, f (some a)) :: rest else (m, a) :: alter name f rest

def insert (es : Entries α) (name : String) (a : α) : Entries α := es.alter name fun _ => a

def insertAll (es fs : Entries α) : Entries α := fs.foldl (fun acc e => acc.insert e.1 e.2) es

def erase (es : Entries α) (name : String) : Entries α := es.filter fun e => e.1 != name

def mapValues (f : α → β) (es : Entries α) : Entries β := es.map fun e => (e.1, f e.2)

/-- No name is written twice. -/
def Distinct (es : Entries α) : Prop := es.names.Nodup

@[simp] theorem names_nil : names ([] : Entries α) = [] := rfl

@[simp] theorem names_cons (e : String × α) (es : Entries α) :
    names (e :: es) = e.1 :: names es := rfl

theorem get?_cons (n : String) (a : α) (es : Entries α) (name : String) :
    get? ((n, a) :: es) name = if name = n then some a else es.get? name := by
  by_cases h : name = n
  · simp [get?, h]
  · have hb : (name == n) = false := beq_eq_false_iff_ne.mpr h
    simp [get?, List.lookup_cons, h, hb]

theorem contains_eq_isSome (es : Entries α) (name : String) :
    es.contains name = (es.get? name).isSome := by
  induction es with
  | nil => rfl
  | cons e es ih =>
    have hc : contains (e :: es) name = (decide (name = e.1) || contains es name) := by
      simp [contains]
    rw [hc, get?_cons e.1 e.2 es name, ih]
    by_cases h : name = e.1
    · simp [h]
    · simp [h]

theorem mem_of_lookup {es : Entries α} {name : String} {a : α} (h : es.lookup name = some a) :
    (name, a) ∈ es := by
  obtain ⟨before, after, rfl, _⟩ := List.lookup_eq_some_iff.mp h
  exact List.mem_append_right before List.mem_cons_self

/-- Only the value under the rewritten name is another one. -/
theorem get?_alter (name : String) (f : Option α → α) (es : Entries α) (m : String) :
    (alter name f es).get? m = if m = name then some (f (es.get? name)) else es.get? m := by
  induction es with
  | nil => exact get?_cons name (f none) [] m
  | cons e es ih =>
    obtain ⟨n, a⟩ := e
    by_cases hn : n = name
    · subst hn
      simp only [alter, if_true, get?_cons]
      split <;> rfl
    · have hne : ¬ name = n := fun h => hn h.symm
      simp only [alter, if_neg hn, get?_cons, ih, if_neg hne]
      by_cases hm : m = n
      · simp [hm, hn]
      · simp [hm]

theorem get?_insert (es : Entries α) (name : String) (a : α) (m : String) :
    (es.insert name a).get? m = if m = name then some a else es.get? m :=
  get?_alter name (fun _ => a) es m

theorem mem_alter {name : String} {f : Option α → α} {es : Entries α} {e : String × α}
    (h : e ∈ alter name f es) : e ∈ es ∨ ∃ old, e = (name, f old) := by
  induction es with
  | nil => exact .inr ⟨none, List.mem_singleton.mp h⟩
  | cons e' es ih =>
    obtain ⟨n, a⟩ := e'
    by_cases hn : n = name
    · simp only [alter, if_pos hn] at h
      rcases List.mem_cons.mp h with rfl | h
      · exact .inr ⟨some a, by rw [hn]⟩
      · exact .inl (List.mem_cons_of_mem _ h)
    · simp only [alter, if_neg hn] at h
      rcases List.mem_cons.mp h with rfl | h
      · exact .inl List.mem_cons_self
      · exact (ih h).imp_left (List.mem_cons_of_mem _)

theorem names_alter (name : String) (f : Option α → α) (es : Entries α) :
    (alter name f es).names = if name ∈ es.names then es.names else es.names ++ [name] := by
  induction es with
  | nil => simp [alter]
  | cons e es ih =>
    by_cases h : e.1 = name
    · simp [alter, h]
    · have h' : ¬ name = e.1 := fun hn => h hn.symm
      simp only [alter, if_neg h, names_cons, ih, List.mem_cons, h', false_or]
      split <;> simp

theorem alter_of_not_mem {name : String} {es : Entries α} (h : name ∉ es.names)
    (f : Option α → α) : alter name f es = es ++ [(name, f none)] := by
  induction es with
  | nil => rfl
  | cons e es ih =>
    rw [names_cons, List.mem_cons, not_or] at h
    have hne : ¬ e.1 = name := fun he => h.1 he.symm
    rw [alter, if_neg hne, ih h.2]
    rfl

/-- Entries under new names are written at the end, in their order. -/
theorem insertAll_of_distinct {es fs : Entries α} (h : Distinct (es ++ fs)) :
    es.insertAll fs = es ++ fs := by
  induction fs generalizing es with
  | nil => exact (List.append_nil es).symm
  | cons f fs ih =>
    have hf : f.1 ∉ es.names := by
      intro hm
      rw [Distinct, names, List.map_append, List.map_cons] at h
      obtain ⟨_, _, hd⟩ := List.nodup_append.mp h
      exact hd f.1 hm f.1 List.mem_cons_self rfl
    have hi : es.insert f.1 f.2 = es ++ [f] := alter_of_not_mem hf _
    have hc : es ++ f :: fs = (es ++ [f]) ++ fs := by simp
    rw [hc] at h ⊢
    rw [← ih h, ← hi]
    rfl

/-- Where no name is written twice, each entry is found by its name. -/
theorem Distinct.lookup_of_mem {es : Entries α} (h : es.Distinct) {e : String × α} (he : e ∈ es) :
    es.lookup e.1 = some e.2 := by
  induction es with
  | nil => cases he
  | cons f es ih =>
    obtain ⟨hf, hes⟩ := List.nodup_cons.mp h
    have hc : (f :: es).lookup e.1 = if e.1 = f.1 then some f.2 else es.lookup e.1 :=
      get?_cons f.1 f.2 es e.1
    rcases List.mem_cons.mp he with rfl | he
    · exact hc.trans (if_pos rfl)
    · have hne : ¬ e.1 = f.1 := fun heq => hf (heq ▸ List.mem_map_of_mem he)
      rw [if_neg hne] at hc
      exact hc.trans (ih hes he)

theorem Distinct.alter {es : Entries α} (h : es.Distinct) (name : String) (f : Option α → α) :
    (alter name f es).Distinct := by
  unfold Distinct
  rw [names_alter]
  split
  · exact h
  · next hn => exact List.nodup_append.2 ⟨h, by simp, fun a ha b hb => by
      simp only [List.mem_singleton] at hb; exact fun hab => hn (hb ▸ hab ▸ ha)⟩

theorem Distinct.insert {es : Entries α} (h : es.Distinct) (name : String) (a : α) :
    (es.insert name a).Distinct := h.alter name _

theorem Distinct.insertAll {es : Entries α} (h : es.Distinct) (fs : Entries α) :
    (es.insertAll fs).Distinct := by
  induction fs generalizing es with
  | nil => exact h
  | cons f fs ih => exact ih (h.insert f.1 f.2)

theorem Distinct.filter {es : Entries α} (h : es.Distinct) (keep : String × α → Bool) :
    Distinct (List.filter keep es) :=
  List.Pairwise.sublist (List.filter_sublist.map Prod.fst) h

theorem Distinct.append {es fs : Entries α} (he : es.Distinct) (hf : fs.Distinct)
    (hd : ∀ name ∈ es.names, name ∉ fs.names) : Distinct (es ++ fs) := by
  rw [Distinct, names, List.map_append]
  refine List.nodup_append.mpr ⟨he, hf, ?_⟩
  rintro name hname other hother rfl
  exact hd name hname hother

theorem Distinct.erase {es : Entries α} (h : es.Distinct) (name : String) :
    (es.erase name).Distinct := h.filter _

theorem names_mapValues (f : α → β) (es : Entries α) : (es.mapValues f).names = es.names := by
  rw [names, mapValues, List.map_map]
  rfl

theorem Distinct.mapValues {es : Entries α} (h : es.Distinct) (f : α → β) :
    (es.mapValues f).Distinct := by
  rw [Distinct, names_mapValues]
  exact h

/-! ## Names and lookups -/

theorem get?_isSome_iff {es : Entries α} {name : String} :
    (es.get? name).isSome = true ↔ name ∈ es.names := by
  rw [← contains_eq_isSome]
  exact List.contains_iff_mem

theorem get?_eq_none_iff {es : Entries α} {name : String} :
    es.get? name = none ↔ name ∉ es.names := by
  rw [← get?_isSome_iff, ← Option.not_isSome_iff_eq_none]

/-- Entries are known by their names in order and by what is found under each of them. -/
theorem Distinct.ext {es fs : Entries α} (h : es.Distinct) (hn : es.names = fs.names)
    (hg : ∀ name, es.get? name = fs.get? name) : es = fs := by
  induction es generalizing fs with
  | nil => cases fs with
    | nil => rfl
    | cons f fs => cases hn
  | cons e es ih =>
    cases fs with
    | nil => cases hn
    | cons f fs =>
      obtain ⟨n, a⟩ := e
      obtain ⟨m, b⟩ := f
      obtain ⟨he, hes⟩ := List.nodup_cons.mp h
      obtain ⟨hnm, hnames⟩ := List.cons.inj hn
      obtain rfl : n = m := hnm
      have hab := hg n
      simp only [get?_cons, if_true] at hab
      obtain rfl := Option.some.inj hab
      have hrest : es = fs := by
        refine ih hes hnames fun name => ?_
        by_cases hname : name = n
        · subst hname
          have hf : name ∉ names fs := fun hm => he (hnames ▸ hm)
          rw [get?_eq_none_iff.mpr he, get?_eq_none_iff.mpr hf]
        · simpa only [get?_cons, if_neg hname] using hg name
      rw [hrest]

/-! ## Entries chosen by their names -/

theorem names_filter (keep : String → Bool) (es : Entries α) :
    names (List.filter (fun e => keep e.1) es) = es.names.filter keep := by
  rw [names, names, List.filter_map]
  rfl

theorem get?_filter (keep : String → Bool) (es : Entries α) (name : String) :
    get? (List.filter (fun e => keep e.1) es) name = if keep name then es.get? name else none := by
  induction es with
  | nil => simp [get?]
  | cons e es ih =>
    obtain ⟨n, a⟩ := e
    cases hk : keep n with
    | true =>
      have hc : List.filter (fun e => keep e.1) ((n, a) :: es) =
          (n, a) :: List.filter (fun e => keep e.1) es := List.filter_cons_of_pos hk
      rw [hc, get?_cons, get?_cons, ih]
      by_cases hn : name = n
      · simp [hn, hk]
      · simp only [if_neg hn]
    | false =>
      have hc : List.filter (fun e => keep e.1) ((n, a) :: es) =
          List.filter (fun e => keep e.1) es := List.filter_cons_of_neg (by simp [hk])
      rw [hc, get?_cons, ih]
      by_cases hn : name = n
      · simp [hn, hk]
      · simp only [if_neg hn]

theorem get?_mapValues (f : α → β) (es : Entries α) (name : String) :
    (es.mapValues f).get? name = (es.get? name).map f := by
  induction es with
  | nil => rfl
  | cons e es ih =>
    have hc : mapValues f (e :: es) = (e.1, f e.2) :: mapValues f es := rfl
    rw [hc, get?_cons, get?_cons e.1 e.2, ih]
    split <;> rfl

/-- Erasing names one by one leaves the entries under the other names. -/
theorem foldl_erase (names : List String) (es : Entries α) :
    names.foldl erase es = List.filter (fun e => !names.contains e.1) es := by
  induction names generalizing es with
  | nil => exact (List.filter_eq_self.mpr fun e _ => rfl).symm
  | cons name names ih =>
    rw [List.foldl_cons, ih, erase, List.filter_filter]
    refine List.filter_congr fun e _ => ?_
    rw [List.contains_cons, Bool.not_or, Bool.and_comm]
    rfl

/-! ## Entries written over others -/

theorem names_insert (es : Entries α) (name : String) (a : α) :
    (es.insert name a).names = if name ∈ es.names then es.names else es.names ++ [name] :=
  names_alter name (fun _ => a) es

/-- The names that are new come after the old ones, which keep their places. -/
theorem names_insertAll {fs : Entries α} (h : fs.Distinct) (es : Entries α) :
    (es.insertAll fs).names = es.names ++ fs.names.filter fun name => !es.names.contains name := by
  induction fs generalizing es with
  | nil => simp [insertAll]
  | cons f fs ih =>
    obtain ⟨hf, hfs⟩ := List.nodup_cons.mp h
    have hi : es.insertAll (f :: fs) = (es.insert f.1 f.2).insertAll fs := rfl
    rw [hi, ih hfs, names_insert]
    by_cases hm : f.1 ∈ es.names
    · simp [hm]
    · have hc : (names fs).filter (fun name => !(es.names ++ [f.1]).contains name) =
          (names fs).filter fun name => !es.names.contains name :=
        List.filter_congr fun name hname => by
          have hne : name ≠ f.1 := fun heq => hf (heq ▸ hname)
          simp [hne]
      have hnew : (names (f :: fs)).filter (fun name => !es.names.contains name) =
          f.1 :: (names fs).filter fun name => !es.names.contains name :=
        List.filter_cons_of_pos (by simpa using hm)
      rw [if_neg hm, hc, hnew, List.append_assoc]
      rfl

/-- What is written last is found. -/
theorem get?_insertAll {fs : Entries α} (h : fs.Distinct) (es : Entries α) (name : String) :
    (es.insertAll fs).get? name = (fs.get? name).or (es.get? name) := by
  induction fs generalizing es with
  | nil => rfl
  | cons f fs ih =>
    obtain ⟨hf, hfs⟩ := List.nodup_cons.mp h
    have hi : es.insertAll (f :: fs) = (es.insert f.1 f.2).insertAll fs := rfl
    rw [hi, ih hfs, get?_insert, get?_cons f.1 f.2 fs]
    by_cases hname : name = f.1
    · rw [hname, get?_eq_none_iff.mpr hf]
      simp
    · simp [hname]

theorem insertAll_assoc {es fs gs : Entries α} (hes : es.Distinct) (hfs : fs.Distinct)
    (hgs : gs.Distinct) : (es.insertAll fs).insertAll gs = es.insertAll (fs.insertAll gs) := by
  refine ((hes.insertAll fs).insertAll gs).ext ?_ fun name => ?_
  · rw [names_insertAll hgs, names_insertAll hfs, names_insertAll (hfs.insertAll gs),
      names_insertAll hgs, List.filter_append, List.filter_filter, List.append_assoc]
    congr 2
    refine List.filter_congr fun name _ => ?_
    by_cases hm : name ∈ es.names <;> simp [hm]
  · rw [get?_insertAll hgs, get?_insertAll hfs, get?_insertAll (hfs.insertAll gs),
      get?_insertAll hgs, Option.or_assoc]

theorem filter_insertAll {es fs : Entries α} (hes : es.Distinct) (hfs : fs.Distinct)
    (keep : String → Bool) :
    List.filter (fun e => keep e.1) (es.insertAll fs) =
      insertAll (List.filter (fun e => keep e.1) es) (List.filter (fun e => keep e.1) fs) := by
  refine ((hes.insertAll fs).filter _).ext ?_ fun name => ?_
  · rw [names_filter, names_insertAll hfs, names_insertAll (hfs.filter _), names_filter,
      names_filter, List.filter_append, List.filter_filter, List.filter_filter]
    congr 1
    refine List.filter_congr fun name _ => ?_
    cases hk : keep name <;> simp [hk]
  · rw [get?_filter, get?_insertAll hfs, get?_insertAll (hfs.filter _), get?_filter, get?_filter]
    split <;> rfl

theorem mapValues_insertAll {es fs : Entries α} (hes : es.Distinct) (hfs : fs.Distinct)
    (f : α → β) : (es.insertAll fs).mapValues f = (es.mapValues f).insertAll (fs.mapValues f) := by
  refine ((hes.insertAll fs).mapValues f).ext ?_ fun name => ?_
  · rw [names_mapValues, names_insertAll hfs, names_insertAll (hfs.mapValues f), names_mapValues,
      names_mapValues]
  · rw [get?_mapValues, get?_insertAll hfs, get?_insertAll (hfs.mapValues f), get?_mapValues,
      get?_mapValues]
    cases fs.get? name <;> rfl

/-- An entry before others that are written over it is seen just when none of them has its name. -/
theorem insertAll_singleton_inj_iff {fs : Entries α} (h : fs.Distinct) (name : String) (a b : α) :
    insertAll [(name, a)] fs = insertAll [(name, b)] fs ↔ name ∈ fs.names ∨ a = b := by
  constructor
  · intro heq
    by_cases hn : name ∈ fs.names
    · exact .inl hn
    · have hg := congrArg (fun es => get? es name) heq
      simp only [get?_insertAll h, get?_eq_none_iff.mpr hn, Option.none_or, get?_cons,
        if_true] at hg
      exact .inr (Option.some.inj hg)
  · rintro (hn | rfl)
    · have hsingle (a : α) : Distinct [(name, a)] := by simp [Distinct]
      refine ((hsingle a).insertAll fs).ext ?_ fun m => ?_
      · rw [names_insertAll h, names_insertAll h]
        rfl
      · rw [get?_insertAll h, get?_insertAll h]
        by_cases hm : m = name
        · obtain ⟨c, hc⟩ := Option.isSome_iff_exists.mp (get?_isSome_iff.mpr (hm ▸ hn))
          rw [hc]
          rfl
        · rw [get?_cons, get?_cons, if_neg hm, if_neg hm]
    · rfl

/-- Rewriting a value into one with the same image leaves all images. -/
theorem mapValues_alter_of_eq {es : Entries α} (h : es.Distinct) {name : String}
    {f : Option α → α} {g : α → β} {a : α} (ha : es.get? name = some a)
    (hg : g (f (some a)) = g a) : (alter name f es).mapValues g = es.mapValues g := by
  refine ((h.alter name f).mapValues g).ext ?_ fun m => ?_
  · have hn : name ∈ es.names := get?_isSome_iff.mp (ha ▸ rfl)
    rw [names_mapValues, names_mapValues, names_alter, if_pos hn]
  · rw [get?_mapValues, get?_mapValues, get?_alter]
    by_cases hm : m = name
    · rw [if_pos hm, hm, ha, Option.map_some, Option.map_some, hg]
    · rw [if_neg hm]

end Entries
end Schemata
