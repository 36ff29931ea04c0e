import Mathlib.Data.List.Induction
import Schemata.Proofs.Report
import Schemata.Proofs.Sameness

/-! # Repeated elements

An element is reported when one before it is the same, so the report is read off one scan from the
left. Whether any is reported depends on no order, because sameness is symmetric. That each reported
element has one like it among the others is an induction on the scan, and needs sameness to be
transitive.
-/
namespace Schemata

/-! ## The scan -/

section Scan
variable {items others : List Value}

theorem repetitionsAfter_concat (earlier : List Value) (position : Nat) (items : List Value)
    (v : Value) : repetitionsAfter earlier position (items ++ [v]) =
      repetitionsAfter earlier position items ++
        if (earlier ++ items).any (·.same v) then [position + items.length] else [] := by
  induction items generalizing earlier position with
  | nil => simp [repetitionsAfter]
  | cons u items ih =>
    have hlen : position + 1 + items.length = position + (u :: items).length := by
      rw [List.length_cons]
      omega
    simp only [List.cons_append, repetitionsAfter, ih, List.append_assoc, List.nil_append, hlen]
    split <;> rfl

/-- With one more element, the scan goes on from the report on the others. -/
theorem repetitions_concat (items : List Value) (v : Value) : repetitions (items ++ [v]) =
    repetitions items ++ if items.any (·.same v) then [items.length] else [] := by
  have h := repetitionsAfter_concat [] 0 items v
  rwa [List.nil_append, Nat.zero_add] at h

theorem lt_length_of_mem_repetitions {j : Nat} (h : j ∈ repetitions items) : j < items.length := by
  induction items using List.reverseRecOn with
  | nil => cases h
  | append_singleton items v ih =>
    rw [repetitions_concat] at h
    rw [List.length_append, List.length_singleton]
    rcases List.mem_append.mp h with h | h
    · have hlt := ih h
      omega
    · split at h
      · rw [List.mem_singleton.mp h]
        omega
      · cases h

theorem increasing_repetitions (items : List Value) : (repetitions items).Pairwise (· < ·) := by
  induction items using List.reverseRecOn with
  | nil => exact .nil
  | append_singleton items v ih =>
    rw [repetitions_concat]
    split
    · refine List.pairwise_append.mpr ⟨ih, List.pairwise_singleton _ _, ?_⟩
      intro j hj k hk
      rw [List.mem_singleton.mp hk]
      exact lt_length_of_mem_repetitions hj
    · rwa [List.append_nil]

theorem mem_repetitions_iff {j : Nat} : j ∈ repetitions items ↔
    ∃ i v w, i < j ∧ items[i]? = some v ∧ items[j]? = some w ∧ v.same w = true := by
  induction items using List.reverseRecOn with
  | nil => simp [repetitions, repetitionsAfter]
  | append_singleton items x ih =>
    have hold {i : Nat} {v : Value} (h : items[i]? = some v) : (items ++ [x])[i]? = some v := by
      rw [List.getElem?_append_left (List.getElem?_eq_some_iff.mp h).1, h]
    rw [repetitions_concat, List.mem_append, ih]
    constructor
    · rintro (⟨i, v, w, hij, hv, hw, hs⟩ | hj)
      · exact ⟨i, v, w, hij, hold hv, hold hw, hs⟩
      · split at hj
        · next hany =>
          obtain ⟨v, hv, hs⟩ := List.any_eq_true.mp hany
          obtain ⟨i, hi⟩ := List.mem_iff_getElem?.mp hv
          obtain rfl := List.mem_singleton.mp hj
          exact ⟨i, v, x, (List.getElem?_eq_some_iff.mp hi).1, hold hi, by simp, hs⟩
        · cases hj
    · rintro ⟨i, v, w, hij, hv, hw, hs⟩
      have hlen := (List.getElem?_eq_some_iff.mp hw).1
      rw [List.length_append, List.length_singleton] at hlen
      rw [List.getElem?_append_left (by omega)] at hv
      by_cases hj : j < items.length
      · rw [List.getElem?_append_left hj] at hw
        exact .inl ⟨i, v, w, hij, hv, hw, hs⟩
      · obtain rfl : j = items.length := by omega
        obtain rfl : x = w := by simpa using hw
        have hany : items.any (·.same x) = true :=
          List.any_eq_true.mpr ⟨v, List.mem_of_getElem? hv, hs⟩
        rw [if_pos hany]
        exact .inr (List.mem_singleton_self _)

theorem repetitions_eq_nil_iff : repetitions items = [] ↔
    items.Pairwise fun v w => v.same w = false := by
  rw [List.eq_nil_iff_forall_not_mem, List.pairwise_iff_getElem]
  constructor
  · intro h i j hi hj hij
    by_contra hs
    rw [Bool.not_eq_false] at hs
    exact h j (mem_repetitions_iff.mpr ⟨i, _, _, hij, List.getElem?_eq_getElem hi,
      List.getElem?_eq_getElem hj, hs⟩)
  · intro h j hj
    obtain ⟨i, v, w, hij, hv, hw, hs⟩ := mem_repetitions_iff.mp hj
    obtain ⟨hi, rfl⟩ := List.getElem?_eq_some_iff.mp hv
    obtain ⟨hj, rfl⟩ := List.getElem?_eq_some_iff.mp hw
    rw [h i j hi hj hij] at hs
    cases hs

/-! ## What is left -/

/-- The elements at other positions than these. -/
def elementsOutside (positions : List Nat) (items : List Value) : List Value :=
  (items.zipIdx.filter fun e => !positions.contains e.2).map Prod.fst

def unrepeated (items : List Value) : List Value := elementsOutside (repetitions items) items

theorem elementsOutside_congr {positions others : List Nat}
    (h : ∀ j < items.length, j ∈ positions ↔ j ∈ others) :
    elementsOutside positions items = elementsOutside others items := by
  rw [elementsOutside, elementsOutside]
  congr 1
  apply List.filter_congr
  intro e he
  have hlt : e.2 < items.length := by simpa using List.snd_lt_of_mem_zipIdx he
  simp only [List.contains_eq_mem, h e.2 hlt]

theorem elementsOutside_concat (positions : List Nat) (items : List Value) (v : Value) :
    elementsOutside positions (items ++ [v]) =
      elementsOutside positions items ++ if items.length ∈ positions then [] else [v] := by
  rw [elementsOutside, List.zipIdx_append, List.filter_append, List.map_append]
  congr 1
  by_cases h : items.length ∈ positions <;> simp [h]

theorem unrepeated_concat (items : List Value) (v : Value) : unrepeated (items ++ [v]) =
    unrepeated items ++ if items.any (·.same v) then [] else [v] := by
  have hnew : items.length ∉ repetitions items :=
    fun h => Nat.lt_irrefl _ (lt_length_of_mem_repetitions h)
  rw [unrepeated, unrepeated, elementsOutside_concat, repetitions_concat]
  split
  · next hany =>
    rw [if_pos (List.mem_append_right _ (List.mem_singleton_self _))]
    congr 1
    apply elementsOutside_congr
    intro j hj
    rw [List.mem_append, List.mem_singleton]
    exact or_iff_left (Nat.ne_of_lt hj)
  · rw [List.append_nil, if_neg hnew]

theorem mem_of_mem_unrepeated {v : Value} (h : v ∈ unrepeated items) : v ∈ items := by
  obtain ⟨e, he, rfl⟩ := List.mem_map.mp h
  exact List.fst_mem_of_mem_zipIdx (List.mem_filter.mp he).1

theorem repetitions_unrepeated (items : List Value) : repetitions (unrepeated items) = [] := by
  induction items using List.reverseRecOn with
  | nil => rfl
  | append_singleton items v ih =>
    rw [unrepeated_concat]
    split
    · rwa [List.append_nil]
    · next hany =>
      have hnone : (unrepeated items).any (·.same v) = false := by
        rw [List.any_eq_false]
        intro u hu hs
        exact hany (List.any_eq_true.mpr ⟨u, mem_of_mem_unrepeated hu, hs⟩)
      rw [repetitions_concat, ih, hnone]
      rfl

theorem exists_unrepeated (hd : ∀ v ∈ items, v.Distinct ∧ v.EveryNumber Number.Exact) {v : Value}
    (hv : v ∈ items) : ∃ u ∈ unrepeated items, u.same v = true := by
  induction items using List.reverseRecOn generalizing v with
  | nil => cases hv
  | append_singleton items x ih =>
    have hold (w : Value) (hw : w ∈ items) := hd w (List.mem_append_left _ hw)
    have hx := hd x (List.mem_append_right _ (List.mem_singleton_self x))
    rw [unrepeated_concat]
    rcases List.mem_append.mp hv with hv | hv
    · obtain ⟨u, hu, hs⟩ := ih hold hv
      exact ⟨u, List.mem_append_left _ hu, hs⟩
    · obtain rfl := List.mem_singleton.mp hv
      split
      · next hany =>
        -- What it repeats has one like it already.
        obtain ⟨w, hw, hwx⟩ := List.any_eq_true.mp hany
        obtain ⟨u, hu, huw⟩ := ih hold hw
        have hud := hold u (mem_of_mem_unrepeated hu)
        exact ⟨u, List.mem_append_left _ hu, Value.same_trans hud (hold w hw) hx huw hwx⟩
      · exact ⟨v, List.mem_append_right _ (List.mem_singleton_self v), Value.same_self hx.1⟩

/-! ## Order -/

/-- The scan looks at each pair once, from the later side. -/
theorem repetitions_ne_nil_iff (hd : ∀ v ∈ items, v.Distinct) : repetitions items ≠ [] ↔
    ∃ (i j : Nat) (v w : Value),
      i ≠ j ∧ items[i]? = some v ∧ items[j]? = some w ∧ v.same w = true := by
  constructor
  · intro h
    obtain ⟨j, hj⟩ := List.exists_mem_of_ne_nil _ h
    obtain ⟨i, v, w, hij, hv, hw, hs⟩ := mem_repetitions_iff.mp hj
    exact ⟨i, j, v, w, Nat.ne_of_lt hij, hv, hw, hs⟩
  · rintro ⟨i, j, v, w, hij, hv, hw, hs⟩
    rcases Nat.lt_or_gt_of_ne hij with hlt | hlt
    · exact List.ne_nil_of_mem (mem_repetitions_iff.mpr ⟨i, v, w, hlt, hv, hw, hs⟩)
    · have hsym : w.same v = true := Value.same_symm (hd v (List.mem_of_getElem? hv))
        (hd w (List.mem_of_getElem? hw)) hs
      exact List.ne_nil_of_mem (mem_repetitions_iff.mpr ⟨j, w, v, hlt, hw, hv, hsym⟩)

/-- Different values, as far as sameness is symmetric. -/
def Value.Apart (v w : Value) : Prop := v.Distinct → w.Distinct → v.same w = false

theorem Value.Apart.symm {v w : Value} (h : v.Apart w) : w.Apart v := by
  intro hw hv
  by_contra hs
  rw [Bool.not_eq_false] at hs
  have hne := h hv hw
  rw [Value.same_symm hw hv hs] at hne
  cases hne

theorem repetitions_eq_nil_iff_apart (hd : ∀ v ∈ items, v.Distinct) :
    repetitions items = [] ↔ items.Pairwise Value.Apart := by
  rw [repetitions_eq_nil_iff]
  refine List.Pairwise.iff_of_mem fun {v w} hv hw => ?_
  exact ⟨fun hs _ _ => hs, fun hs => hs (hd v hv) (hd w hw)⟩

theorem repetitions_eq_nil_of_perm (hd : ∀ v ∈ items, v.Distinct) (h : items.Perm others) :
    repetitions items = [] ↔ repetitions others = [] := by
  rw [repetitions_eq_nil_iff_apart hd,
    repetitions_eq_nil_iff_apart fun v hv => hd v (h.mem_iff.mpr hv)]
  exact h.pairwise_iff Value.Apart.symm

theorem repetitions_eq_nil_of_matches (hd : ∀ v ∈ items, v.Distinct)
    (h : Matches Value.Reordered items others) :
    repetitions items = [] ↔ repetitions others = [] := by
  obtain ⟨mid, hp, hm⟩ := h
  have hmid : repetitions mid = repetitions others :=
    repetitionsAfter_reordered .nil hm (fun v hv => hd v (hp.mem_iff.mpr hv)) 0
  rw [repetitions_eq_nil_of_perm hd hp, hmid]

end Scan

/-! ## The report -/

/-- The one constraint that no element repeats another, as it is added to no rules. -/
def ArrayRules.onlyUnique (typeMessage message : Option String) : ArrayRules :=
  ⟨typeMessage, [⟨.unique, message⟩]⟩

def Issue.repetition (p : Path) (message : Option String) (positions : List Nat) : Issue :=
  ⟨p, message.getD "Array elements must be unique", .custom,
    some ("duplicates at indices [" ++ ", ".intercalate (positions.map toString) ++ "]"),
    some "unique elements"⟩

section Report
variable {typeMessage message : Option String} {items : List Value} {p : Path}

theorem violation_unique_ne_none_iff :
    ArrayConstraint.unique.violation items ≠ none ↔ repetitions items ≠ [] := by
  rw [ArrayConstraint.violation]
  cases repetitions items <;> simp

theorem issues_onlyUnique (p : Path) :
    (ArrayRules.onlyUnique typeMessage message).issues (·.violation items) p =
      if repetitions items = [] then [] else [.repetition p message (repetitions items)] := by
  simp only [Rules.issues, ArrayRules.onlyUnique, List.filterMap_cons, List.filterMap_nil,
    ArrayConstraint.violation]
  cases repetitions items with
  | nil => rfl
  | cons j js => rfl

theorem validate_array_any (rules : ArrayRules) (items : List Value) (p : Path) :
    (Schema.array .any rules).validate (some (.array items)) p =
      pure (.conclude (.array items) (rules.issues (·.violation items) p)) := by
  let c : Call := ⟨.array .any rules, some (.array items), p⟩
  let verdicts : List Verdict := c.parts.map fun d => .ok d.input
  have hrun : ∀ d ∈ c.parts, d.run = pure (.ok d.input) := by
    intro d hd
    obtain ⟨e, _, rfl⟩ := List.mem_map.mp hd
    rfl
  have hparts : c.parts.mapM Call.run = pure verdicts := by
    rw [Run.mapM_of_ok fun d hd => congrArg Run.outcome (hrun d hd)]
    refine Run.ext ?_ rfl
    rw [Run.log_pure, List.flatMap_eq_nil_iff]
    exact fun d hd => congrArg Run.log (hrun d hd)
  have houts : (verdicts.map fun v : Verdict => v.value?.getD .null) = items := by
    simp [verdicts, c, Call.parts, Verdict.value?, Function.comp_def]
  have hissues : verdicts.flatMap Verdict.issues = [] := by simp [verdicts]
  change c.run = _
  rw [Call.run_eq rfl, hparts, pure_bind]
  change pure (ArrayRules.verdict rules items p verdicts) = _
  rw [ArrayRules.verdict, houts, hissues, List.append_nil]

theorem validate_onlyUnique_of_nil (h : repetitions items = []) (p : Path) :
    (Schema.array .any (.onlyUnique typeMessage message)).validate (some (.array items)) p =
      pure (.ok (some (.array items))) := by
  rw [validate_array_any, issues_onlyUnique, if_pos h]
  rfl

theorem issues_array {element : Schema} {rules : ArrayRules} {w : Verdict}
    (h : ((Schema.array element rules).validate (some (.array items)) p).outcome = .ok w) :
    ∃ rest, w.issues = rules.issues (·.violation items) p ++ rest ∧
      ∀ i ∈ rest, ∃ j v u, items[j]? = some v ∧
        (element.validate (some v) (p.index j)).outcome = .ok u ∧ i ∈ u.issues := by
  let c : Call := ⟨.array element rules, some (.array items), p⟩
  have hrun : (c.parts.mapM Call.run >>= c.close).outcome = .ok w := by
    rw [← Call.run_eq rfl]
    exact h
  obtain ⟨vs, hvs, hw⟩ := Run.outcome_bind_eq_ok hrun
  obtain ⟨g, hg, rfl⟩ := Run.exists_of_mapM_ok hvs
  obtain ⟨w', hclose, hissues⟩ := Call.close_of_gathers (c := c) trivial (List.length_map g)
  rw [hclose] at hw
  obtain rfl : w' = w := Except.ok.inj hw
  refine ⟨(c.parts.map g).flatMap Verdict.issues, ?_, ?_⟩
  · rw [hissues]
    exact List.append_nil _
  · intro i hi
    obtain ⟨v, hv, hiv⟩ := List.mem_flatMap.mp hi
    obtain ⟨d, hd, rfl⟩ := List.mem_map.mp hv
    have houtcome := hg d hd
    obtain ⟨e, he, rfl⟩ := List.mem_map.mp hd
    exact ⟨e.2, e.1, _, List.mem_zipIdx_iff_getElem?.mp he, houtcome, hiv⟩

/-- What an array comes to under the one constraint, and what is left of it without the elements
that are reported. -/
structure ReportsRepetitions (typeMessage message : Option String) (items : List Value) : Prop where
  accepts : repetitions items = [] → ∀ p,
    (Schema.array .any (.onlyUnique typeMessage message)).validate (some (.array items)) p =
      pure (.ok (some (.array items)))
  refuses : repetitions items ≠ [] → ∀ p,
    (Schema.array .any (.onlyUnique typeMessage message)).validate (some (.array items)) p =
      pure (.error (.single (.repetition p message (repetitions items))))
  leads : ∀ element p w, ((Schema.array element (.onlyUnique typeMessage message)).validate
      (some (.array items)) p).outcome = .ok w →
    ∃ rest, w.issues = (if repetitions items = [] then []
        else [.repetition p message (repetitions items)]) ++ rest ∧
      ∀ i ∈ rest, ∃ j v u, items[j]? = some v ∧
        (element.validate (some v) (p.index j)).outcome = .ok u ∧ i ∈ u.issues
  violated_iff : ArrayConstraint.unique.violation items ≠ none ↔
    ∃ (i j : Nat) (v w : Value),
      i ≠ j ∧ items[i]? = some v ∧ items[j]? = some w ∧ v.same w = true
  unordered : ∀ others, Matches Value.Reordered items others →
    (ArrayConstraint.unique.violation items ≠ none ↔
      ArrayConstraint.unique.violation others ≠ none)
  reports_iff : repetitions items ≠ [] ↔ ArrayConstraint.unique.violation items ≠ none
  reported_iff : ∀ j, j ∈ repetitions items ↔ ∃ (i : Nat) (v w : Value),
    i < j ∧ items[i]? = some v ∧ items[j]? = some w ∧ v.same w = true
  increasing : (repetitions items).Pairwise (· < ·)
  not_first : 0 ∉ repetitions items
  left_accepted : ∀ p, (Schema.array .any (.onlyUnique typeMessage message)).validate
      (some (.array (elementsOutside (repetitions items) items))) p =
    pure (.ok (some (.array (elementsOutside (repetitions items) items))))
  left_represents : (∀ v ∈ items, v.EveryNumber Number.Exact) → ∀ j ∈ repetitions items,
    ∃ v, items[j]? = some v ∧ ∃ u ∈ elementsOutside (repetitions items) items, u.same v = true

end Report

/-- An array without double names, and no constraint but that no element repeats another. It is
violated just when two elements in different places are the same, in whatever order the elements and
the entries in them are. The report has the positions of the elements that repeat an earlier one, in
increasing order, so never the first. Without these elements nothing is reported, and each of them
has one like it among the others as long as no integer, at any depth, is beyond `2 ^ 53`. -/
theorem unique_reports_repetitions (typeMessage message : Option String) {items : List Value}
    (hd : ∀ v ∈ items, v.Distinct) : ReportsRepetitions typeMessage message items := by
  constructor
  case accepts => exact validate_onlyUnique_of_nil
  case refuses =>
    intro h p
    rw [validate_array_any, issues_onlyUnique, if_neg h]
    rfl
  case leads =>
    intro element p w h
    rw [← issues_onlyUnique]
    exact issues_array h
  case violated_iff => exact violation_unique_ne_none_iff.trans (repetitions_ne_nil_iff hd)
  case unordered =>
    intro others h
    rw [violation_unique_ne_none_iff, violation_unique_ne_none_iff]
    exact not_congr (repetitions_eq_nil_of_matches hd h)
  case reports_iff => exact violation_unique_ne_none_iff.symm
  case reported_iff => exact fun j => mem_repetitions_iff
  case increasing => exact increasing_repetitions items
  case not_first =>
    intro h
    obtain ⟨i, _, _, hi, _⟩ := mem_repetitions_iff.mp h
    exact Nat.not_lt_zero i hi
  case left_accepted => exact validate_onlyUnique_of_nil (repetitions_unrepeated items)
  case left_represents =>
    intro hx j hj
    have hv := List.getElem?_eq_getElem (lt_length_of_mem_repetitions hj)
    have hmem := List.mem_of_getElem? hv
    exact ⟨_, hv, exists_unrepeated (fun v hv => ⟨hd v hv, hx v hv⟩) hmem⟩

/-- The next integer is the same as a double that is the same as `2 ^ 53`, and has none like it
left. -/
example :
    let double : Binary64 := ⟨false, ⟨1 <<< 52, 1075⟩, by decide, by decide⟩
    let items : List Value := [.int (2 ^ 53), .number (.float double), .int (2 ^ 53 + 1)]
    repetitions items = [1, 2] ∧ (Value.int (2 ^ 53)).same (.int (2 ^ 53 + 1)) = false := by
  decide +kernel

/-- One, with its fraction. -/
def Binary64.one : Binary64 := ⟨false, ⟨1 <<< 52, 1022⟩, by decide, by decide⟩

/-- A number and a point, each written in two ways, and a text. -/
def points : List Value :=
  [.int 1, .object [("x", .int 1), ("y", .array [.null])], .number (.float .one),
    .object [("y", .array [.null]), ("x", .number (.float .one))], .string "1"]

theorem distinct_points : ∀ v ∈ points, v.Distinct := by
  have hpair : ∀ {n m : String} {v w : Value}, n ≠ m → v.Distinct → w.Distinct →
      Value.Distinct (.object [(n, v), (m, w)]) := fun hn hv hw =>
    .object (by simpa [Entries.Distinct] using hn)
      (List.forall_mem_cons.mpr ⟨hv, List.forall_mem_singleton.mpr hw⟩)
  have hy : Value.Distinct (.array [.null]) := .array (List.forall_mem_singleton.mpr .null)
  have hpoint := hpair (n := "x") (m := "y") (by simp) (.number (.int 1)) hy
  have hpoint' := hpair (n := "y") (m := "x") (by simp) hy (.number (.float .one))
  exact List.forall_mem_cons.mpr ⟨.number (.int 1), List.forall_mem_cons.mpr ⟨hpoint,
    List.forall_mem_cons.mpr ⟨.number (.float .one), List.forall_mem_cons.mpr ⟨hpoint',
      List.forall_mem_singleton.mpr (.string "1")⟩⟩⟩⟩

theorem exact_points : ∀ v ∈ points, v.EveryNumber Number.Exact := by
  have hpair : ∀ {n m : String} {v w : Value}, v.EveryNumber Number.Exact →
      w.EveryNumber Number.Exact →
        Value.EveryNumber Number.Exact (.object [(n, v), (m, w)]) := fun hv hw =>
    .object (List.forall_mem_cons.mpr ⟨hv, List.forall_mem_singleton.mpr hw⟩)
  have hint : Value.EveryNumber Number.Exact (.number (.int 1)) :=
    .number (by decide : (1 : Int).natAbs ≤ 1 <<< 53)
  have hfloat : Value.EveryNumber Number.Exact (.number (.float .one)) := .number trivial
  have hy : Value.EveryNumber Number.Exact (.array [.null]) :=
    .array (List.forall_mem_singleton.mpr .null)
  exact List.forall_mem_cons.mpr ⟨hint, List.forall_mem_cons.mpr ⟨hpair hint hy,
    List.forall_mem_cons.mpr ⟨hfloat, List.forall_mem_cons.mpr ⟨hpair hy hfloat,
      List.forall_mem_singleton.mpr (.string "1")⟩⟩⟩⟩

/-- The second way of writing is reported, and the first stays. -/
theorem unique_reports_repetitions_points :
    (∀ v ∈ points, v.Distinct) ∧ (∀ v ∈ points, v.EveryNumber Number.Exact) ∧
      repetitions points = [2, 3] ∧
      (Schema.array .any (.onlyUnique none none)).validate (some (.array points)) [] =
        pure (.error (.single ⟨[], "Array elements must be unique", .custom,
          some "duplicates at indices [2, 3]", some "unique elements"⟩)) ∧
      elementsOutside [2, 3] points =
        [.int 1, .object [("x", .int 1), ("y", .array [.null])], .string "1"] ∧
      ∃ u ∈ elementsOutside [2, 3] points, u.same (.number (.float .one)) = true := by
  have hreported : repetitions points = [2, 3] := by decide +kernel
  have h := unique_reports_repetitions none none distinct_points
  have hrefuses := h.refuses (by rw [hreported]; exact List.cons_ne_nil _ _) []
  have hleft := h.left_represents exact_points 2 (by rw [hreported]; exact List.mem_cons_self)
  rw [hreported] at hrefuses hleft
  obtain ⟨v, hv, hu⟩ := hleft
  obtain rfl : Value.number (.float .one) = v := Option.some.inj hv
  exact ⟨distinct_points, exact_points, hreported, hrefuses, rfl, hu⟩

end Schemata
