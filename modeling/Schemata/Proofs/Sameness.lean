import Schemata.Proofs.Reordering

/-! # Sameness of values

An object is compared from its left side: each of its entries is looked up by name on the right. Where
no name is written twice that is to match the entries of both sides, so the comparison inherits the
laws of the equality of numbers that it is given. Two numbers are compared as doubles unless both are
integers, so their sameness is transitive among integers that are doubles, and not beyond.
-/
namespace Schemata

theorem Binary64.same_iff {x y : Binary64} : x.same y = true ↔ x.quanta = y.quanta := beq_iff_eq

theorem Binary64.unit_ne_zero : Binary64.unit ≠ 0 := by decide

theorem Extended.same_symm {x y : Extended} (h : x.same y = true) : y.same x = true := by
  cases x with
  | notANumber => cases h
  | infinite negative =>
    cases y with
    | infinite negative' => exact beq_iff_eq.mpr (beq_iff_eq.mp h).symm
    | notANumber | finite y => cases h
  | finite x =>
    cases y with
    | finite y => exact Binary64.same_iff.mpr (Binary64.same_iff.mp h).symm
    | notANumber | infinite negative => cases h

namespace Number
variable {x y z : Number}

theorem same_self (x : Number) : x.same x = true := by
  cases x with
  | int n => exact beq_self_eq_true n
  | float x => exact Binary64.same_iff.mpr rfl

theorem same_symm (h : x.same y = true) : y.same x = true := by
  have hdoubles (h : x.toDouble.same y.toDouble = true) : y.toDouble.same x.toDouble = true :=
    Extended.same_symm h
  cases x with
  | int n =>
    cases y with
    | int m => exact beq_iff_eq.mpr (beq_iff_eq.mp h).symm
    | float y => exact hdoubles h
  | float x =>
    cases y with
    | int m => exact hdoubles h
    | float y => exact hdoubles h

/-- The quantity in quanta, of which `Binary64.unit` make one. -/
def quanta : Number → Int
  | .int n => n * Binary64.unit
  | .float x => x.quanta

/-- Not an integer that is too long for a double. -/
def Exact : Number → Prop
  | .int n => n.natAbs ≤ 1 <<< 53
  | .float _ => True

theorem toDouble_of_exact (hx : x.Exact) : ∃ d, x.toDouble = .finite d ∧ d.quanta = x.quanta := by
  cases x with
  | int n => exact Extended.ofInt_of_natAbs_le hx
  | float x => exact ⟨x, rfl, rfl⟩

/-- Exact numbers are the same just when they are of one quantity. -/
theorem same_iff_quanta_eq (hx : x.Exact) (hy : y.Exact) :
    x.same y = true ↔ x.quanta = y.quanta := by
  obtain ⟨d, hd, hdq⟩ := toDouble_of_exact hx
  obtain ⟨e, he, heq⟩ := toDouble_of_exact hy
  have hdoubles : x.toDouble.same y.toDouble = true ↔ x.quanta = y.quanta := by
    rw [hd, he, ← hdq, ← heq]
    exact Binary64.same_iff
  cases x with
  | int n =>
    cases y with
    | int m =>
      have hinj : n * Binary64.unit = m * Binary64.unit ↔ n = m :=
        Int.mul_eq_mul_right_iff Binary64.unit_ne_zero
      exact beq_iff_eq.trans hinj.symm
    | float y => exact hdoubles
  | float x => exact hdoubles

theorem same_trans (hx : x.Exact) (hy : y.Exact) (hz : z.Exact) (hxy : x.same y = true)
    (hyz : y.same z = true) : x.same z = true := by
  rw [same_iff_quanta_eq hx hy] at hxy
  rw [same_iff_quanta_eq hy hz] at hyz
  rw [same_iff_quanta_eq hx hz]
  exact hxy.trans hyz

end Number

namespace Value

/-- A property of every number in a value, at any depth. -/
inductive EveryNumber (p : Number → Prop) : Value → Prop
  | null : EveryNumber p .null
  | bool (b : Bool) : EveryNumber p (.bool b)
  | number {n : Number} (holds : p n) : EveryNumber p (.number n)
  | string (s : String) : EveryNumber p (.string s)
  | array {items : List Value} (each : ∀ v ∈ items, EveryNumber p v) : EveryNumber p (.array items)
  | object {entries : List (String × Value)} (each : ∀ e ∈ entries, EveryNumber p e.2) :
    EveryNumber p (.object entries)

section EveryNumber
variable {p : Number → Prop} {items : List Value} {entries : List (String × Value)}

theorem EveryNumber.holds {n : Number} (h : (Value.number n).EveryNumber p) : p n := by
  cases h with
  | number holds => exact holds

theorem EveryNumber.item (h : (Value.array items).EveryNumber p) :
    ∀ v ∈ items, v.EveryNumber p := by
  cases h with
  | array each => exact each

theorem EveryNumber.entry (h : (Value.object entries).EveryNumber p) :
    ∀ e ∈ entries, e.2.EveryNumber p := by
  cases h with
  | object each => exact each

end EveryNumber

section Agree
variable {numbers : Number → Number → Bool} {u v w : Value} {xs ys : List Value}
  {es fs : List (String × Value)}

theorem agreeItems_iff : agreeItems numbers xs ys = true ↔
    List.Forall₂ (fun v w => agree numbers v w) xs ys := by
  induction xs generalizing ys with
  | nil =>
    cases ys with
    | nil => simp [agreeItems]
    | cons y ys => simp [agreeItems]
  | cons x xs ih =>
    cases ys with
    | nil => simp [agreeItems]
    | cons y ys => simp only [agreeItems, Bool.and_eq_true, ih, List.forall₂_cons]

theorem exists_of_agree_array (h : agree numbers (.array xs) w = true) :
    ∃ ys, w = .array ys ∧ List.Forall₂ (fun v w => agree numbers v w) xs ys := by
  cases w with
  | array ys => exact ⟨ys, rfl, agreeItems_iff.mp h⟩
  | _ => cases h

theorem exists_of_agree_object (hd : Entries.Distinct es)
    (h : agree numbers (.object es) w = true) :
    ∃ fs, w = .object fs ∧ Matches (Named fun v w => agree numbers v w) es fs := by
  cases w with
  | object fs =>
    simp only [agree, agreeEntries_eq_all, Bool.and_eq_true, beq_iff_eq, List.all_eq_true] at h
    obtain ⟨hl, hall⟩ := h
    refine ⟨fs, rfl, matches_of_lookup hd hl ?_⟩
    exact fun e he => (Option.any_eq_true _ _).mp (hall e he)
  | _ => cases h

theorem agree_object_of_matches (hd : Entries.Distinct fs)
    (h : Matches (Named fun v w => agree numbers v w) es fs) :
    agree numbers (.object es) (.object fs) = true := by
  simp only [agree, agreeEntries_eq_all, Bool.and_eq_true, beq_iff_eq, List.all_eq_true]
  refine ⟨h.length_eq, ?_⟩
  intro e he
  obtain ⟨f, hf, hn, hag⟩ := h.exists_right he
  rw [hn, hd.lookup_of_mem hf]
  exact hag

theorem agree_self (hn : ∀ x, numbers x x = true) (hv : v.Distinct) :
    agree numbers v v = true := by
  induction hv with
  | null => rfl
  | bool b => exact beq_self_eq_true b
  | number x => exact hn x
  | string s => exact beq_self_eq_true s
  | array _ ih => exact agreeItems_iff.mpr (List.forall₂_same.mpr ih)
  | object names _ ih =>
    refine agree_object_of_matches names (.of_forall₂ (List.forall₂_same.mpr ?_))
    exact fun e he => ⟨rfl, ih e he⟩

theorem agree_symm (hn : ∀ x y, numbers x y = true → numbers y x = true) (hv : v.Distinct)
    (hw : w.Distinct) (h : agree numbers v w = true) : agree numbers w v = true := by
  induction hv generalizing w with
  | null =>
    cases w with
    | null => rfl
    | _ => cases h
  | bool b =>
    cases w with
    | bool c => exact beq_iff_eq.mpr (beq_iff_eq.mp h).symm
    | _ => cases h
  | number x =>
    cases w with
    | number y => exact hn x y h
    | _ => cases h
  | string s =>
    cases w with
    | string t => exact beq_iff_eq.mpr (beq_iff_eq.mp h).symm
    | _ => cases h
  | array _ ih =>
    obtain ⟨ys, rfl, hxy⟩ := exists_of_agree_array h
    have hyx := (forall₂_mem hxy).imp fun x y ⟨hx, hy, hag⟩ => ih x hx (hw.item y hy) hag
    exact agreeItems_iff.mpr hyx.flip
  | object names _ ih =>
    obtain ⟨fs, rfl, hm⟩ := exists_of_agree_object names h
    refine agree_object_of_matches names (hm.mem.symm.imp ?_)
    rintro f e ⟨he, hf, hname, hag⟩
    exact ⟨hname.symm, ih e he (hw.entry f hf) hag⟩

theorem agree_trans {p : Number → Prop}
    (hn : ∀ x y z, p x → p y → p z → numbers x y = true → numbers y z = true →
      numbers x z = true)
    (hu : u.Distinct ∧ u.EveryNumber p) (hv : v.Distinct ∧ v.EveryNumber p)
    (hw : w.Distinct ∧ w.EveryNumber p) (huv : agree numbers u v = true)
    (hvw : agree numbers v w = true) : agree numbers u w = true := by
  obtain ⟨hud, hup⟩ := hu
  induction hud generalizing v w with
  | null =>
    cases v with
    | null => exact hvw
    | _ => cases huv
  | bool b =>
    cases v with
    | bool c => exact (beq_iff_eq.mp huv : b = c) ▸ hvw
    | _ => cases huv
  | number x =>
    cases v with
    | number y =>
      cases w with
      | number z => exact hn x y z hup.holds hv.2.holds hw.2.holds huv hvw
      | _ => cases hvw
    | _ => cases huv
  | string s =>
    cases v with
    | string t => exact (beq_iff_eq.mp huv : s = t) ▸ hvw
    | _ => cases huv
  | array _ ih =>
    obtain ⟨ys, rfl, hxy⟩ := exists_of_agree_array huv
    obtain ⟨zs, rfl, hyz⟩ := exists_of_agree_array hvw
    refine agreeItems_iff.mpr ((forall₂_comp (forall₂_mem hxy) (forall₂_mem hyz)).imp ?_)
    rintro x z ⟨y, ⟨hx, hy, hag⟩, _, hz, hag'⟩
    have hyd := And.intro (hv.1.item y hy) (hv.2.item y hy)
    have hzd := And.intro (hw.1.item z hz) (hw.2.item z hz)
    exact ih x hx hyd hzd hag hag' (hup.item x hx)
  | object names _ ih =>
    obtain ⟨fs, rfl, hef⟩ := exists_of_agree_object names huv
    obtain ⟨gs, rfl, hfg⟩ := exists_of_agree_object hv.1.names hvw
    refine agree_object_of_matches hw.1.names ((hef.mem.comp hfg.mem).imp ?_)
    rintro e g ⟨f, ⟨he, hf, hname, hag⟩, _, hg, hname', hag'⟩
    have hfd := And.intro (hv.1.entry f hf) (hv.2.entry f hf)
    have hgd := And.intro (hw.1.entry g hg) (hw.2.entry g hg)
    exact ⟨hname.trans hname', ih e he hfd hgd hag hag' (hup.entry e he)⟩

end Agree

theorem same_self {v : Value} (hv : v.Distinct) : v.same v = true :=
  agree_self Number.same_self hv

theorem same_symm {v w : Value} (hv : v.Distinct) (hw : w.Distinct) (h : v.same w = true) :
    w.same v = true := agree_symm (fun _ _ => Number.same_symm) hv hw h

theorem same_trans {u v w : Value} (hu : u.Distinct ∧ u.EveryNumber Number.Exact)
    (hv : v.Distinct ∧ v.EveryNumber Number.Exact) (hw : w.Distinct ∧ w.EveryNumber Number.Exact)
    (huv : u.same v = true) (hvw : v.same w = true) : u.same w = true :=
  agree_trans (fun _ _ _ => Number.same_trans) hu hv hw huv hvw

end Value
end Schemata
