import Mathlib.Data.List.Forall2
import Schemata.Proofs.Reach

/-! # Two runs side by side

Two runs are related when they log the same and end in related results, or both in the same fault.
When related calls have related parts and close related verdicts alike, their whole runs are
related: a relation that one step keeps is kept by validation.
-/
namespace Schemata

namespace Run
variable {α β γ δ : Type} {R : α → β → Prop} {S : γ → δ → Prop}

/-- The same log, and related results or the same fault. -/
structure Related (R : α → β → Prop) (x : Run α) (y : Run β) : Prop where
  log : x.log = y.log
  ends : (∃ a b, x.outcome = .ok a ∧ y.outcome = .ok b ∧ R a b) ∨
    ∃ e, x.outcome = .error e ∧ y.outcome = .error e

theorem Related.pure {a : α} {b : β} (h : R a b) : Related R (Pure.pure a) (Pure.pure b) :=
  ⟨rfl, .inl ⟨a, b, rfl, rfl, h⟩⟩

theorem Related.refl {R : α → α → Prop} (h : ∀ a, R a a) (x : Run α) : Related R x x := by
  refine ⟨rfl, ?_⟩
  cases hx : x.outcome with
  | ok a => exact .inl ⟨a, a, rfl, rfl, h a⟩
  | error e => exact .inr ⟨e, rfl, rfl⟩

theorem Related.symm {x : Run α} {y : Run β} (h : Related R x y) :
    Related (fun b a => R a b) y x := by
  refine ⟨h.log.symm, ?_⟩
  rcases h.ends with ⟨a, b, hx, hy, hab⟩ | ⟨e, hx, hy⟩
  · exact .inl ⟨b, a, hy, hx, hab⟩
  · exact .inr ⟨e, hy, hx⟩

theorem Related.trans {S : β → γ → Prop} {T : α → γ → Prop} {x : Run α} {y : Run β} {z : Run γ}
    (h : Related R x y) (h' : Related S y z) (hT : ∀ a b c, R a b → S b c → T a c) :
    Related T x z := by
  refine ⟨h.log.trans h'.log, ?_⟩
  rcases h.ends with ⟨a, b, hx, hy, hab⟩ | ⟨e, hx, hy⟩
  · rcases h'.ends with ⟨b', c, hy', hz, hbc⟩ | ⟨e, hy', _⟩
    · obtain rfl : b = b' := Except.ok.inj (hy.symm.trans hy')
      exact .inl ⟨a, c, hx, hz, hT a b c hab hbc⟩
    · cases hy.symm.trans hy'
  · rcases h'.ends with ⟨b', c, hy', _, _⟩ | ⟨e', hy', hz⟩
    · cases hy.symm.trans hy'
    · obtain rfl : e = e' := Except.error.inj (hy.symm.trans hy')
      exact .inr ⟨e, hx, hz⟩

theorem Related.map {x : Run α} (f : α → β) (h : ∀ a, R a (f a)) : Related R x (f <$> x) := by
  rw [map_eq_pure_bind]
  cases hx : x.outcome with
  | ok a =>
    rw [bind_of_ok hx]
    exact ⟨(List.append_nil _).symm, .inl ⟨a, f a, hx, rfl, h a⟩⟩
  | error e =>
    rw [bind_of_error hx]
    exact ⟨rfl, .inr ⟨e, hx, rfl⟩⟩

theorem Related.eq_map {x : Run α} {y : Run β} {f : α → β}
    (h : Related (fun a b => b = f a) x y) : y = f <$> x := by
  rw [map_eq_pure_bind]
  rcases h.ends with ⟨a, b, hx, hy, rfl⟩ | ⟨e, hx, hy⟩
  · rw [bind_of_ok hx]
    exact ext (by simp [h.log]) hy
  · rw [bind_of_error hx]
    exact ext h.log.symm hy

theorem Related.bind {x : Run α} {y : Run β} {f : α → Run γ} {g : β → Run δ}
    (h : Related R x y) (hfg : ∀ a b, R a b → Related S (f a) (g b)) :
    Related S (x >>= f) (y >>= g) := by
  rcases h.ends with ⟨a, b, hx, hy, hab⟩ | ⟨e, hx, hy⟩
  · have hr := hfg a b hab
    rw [bind_of_ok hx, bind_of_ok hy]
    exact ⟨by rw [h.log, hr.log], hr.ends⟩
  · rw [bind_of_error hx, bind_of_error hy]
    exact ⟨h.log, .inr ⟨e, rfl, rfl⟩⟩

theorem Related.mapM {f : α → Run γ} {g : β → Run δ} {l : List α} {m : List β}
    (h : List.Forall₂ (fun a b => Related S (f a) (g b)) l m) :
    Related (fun rs ts => rs.length = l.length ∧ List.Forall₂ S rs ts) (l.mapM f) (m.mapM g) := by
  induction h with
  | nil => exact .pure ⟨rfl, .nil⟩
  | @cons a b l m hab _ ih =>
    rw [List.mapM_cons, List.mapM_cons]
    refine hab.bind fun r t hrt => ih.bind fun rs ts hrs => .pure ?_
    exact ⟨congrArg (· + 1) hrs.1, .cons hrt hrs.2⟩

end Run

/-- A relation of verdicts that does not confuse acceptance with refusal. -/
def Verdict.Sound (R : Verdict → Verdict → Prop) : Prop :=
  ∀ v w, R v w → ((∃ out, v = .ok out) ↔ ∃ out, w = .ok out)

namespace Call
variable {S : Call → Call → Prop} {R : Verdict → Verdict → Prop}

theorem related_firstAccepted (hR : Verdict.Sound R) {options others : List Schema}
    {x y : Option Value} {p q : Path}
    (h : List.Forall₂ (fun o o' => Run.Related R (o.validate x p) (o'.validate y q))
      options others) :
    Run.Related (Option.Rel fun out out' => R (.ok out) (.ok out'))
      (Schema.firstAccepted options x p) (Schema.firstAccepted others y q) := by
  induction h with
  | nil => exact .pure .none
  | @cons o o' options others ho _ ih =>
    rw [Schema.firstAccepted, Schema.firstAccepted]
    refine ho.bind fun v w hvw => ?_
    cases v with
    | ok out =>
      obtain ⟨out', rfl⟩ := (hR _ _ hvw).mp ⟨out, rfl⟩
      exact .pure (.some hvw)
    | error is =>
      cases w with
      | ok out' =>
        obtain ⟨out, ho⟩ := (hR _ _ hvw).mpr ⟨out', rfl⟩
        cases ho
      | error js => exact ih

/-- What one step of validation must keep: related calls have related parts, close related verdicts
alike, and refuse alike when they are unions. -/
structure Simulation (S : Call → Call → Prop) (R : Verdict → Verdict → Prop) : Prop where
  sound : Verdict.Sound R
  isUnion : ∀ c d, S c d → c.isUnion = d.isUnion
  parts : ∀ c d, S c d → List.Forall₂ S c.parts d.parts
  close : ∀ c d vs ws, S c d → c.isUnion = false → vs.length = c.parts.length →
    List.Forall₂ R vs ws → Run.Related R (c.close vs) (d.close ws)
  refusal : ∀ options message x p others message' y q,
    S ⟨.union options message, x, p⟩ ⟨.union others message', y, q⟩ →
    R (Schema.unionRefusal message x p) (Schema.unionRefusal message' y q)

/-- Related calls have related runs. -/
theorem Simulation.run (h : Simulation S R) {c d : Call} (hcd : S c d) :
    Run.Related R c.run d.run := by
  induction c using partInduction generalizing d with
  | call c ih =>
    have hparts : List.Forall₂ (fun a b => Run.Related R a.run b.run) c.parts d.parts := by
      have hs := h.parts c d hcd
      rw [List.forall₂_iff_get] at hs ⊢
      exact ⟨hs.1, fun i hi hj => ih _ (List.get_mem _ _) (hs.2 i hi hj)⟩
    have hu := h.isUnion c d hcd
    cases hc : c.isUnion with
    | false =>
      rw [run_eq hc, run_eq (hu.symm.trans hc)]
      exact (Run.Related.mapM hparts).bind fun vs ws hvw => h.close c d vs ws hcd hc hvw.1 hvw.2
    | true =>
      obtain ⟨s, x, p⟩ := c
      obtain ⟨t, y, q⟩ := d
      cases s with
      | union options message =>
        cases t with
        | union others message' =>
          have ho := related_firstAccepted h.sound
            (List.forall₂_map_left_iff.mp (List.forall₂_map_right_iff.mp hparts))
          show Run.Related R (Schema.validate (.union options message) x p)
            (Schema.validate (.union others message') y q)
          rw [Schema.validate, Schema.validate]
          refine ho.bind fun r r' hr => ?_
          cases hr with
          | none => exact .pure (h.refusal _ _ _ _ _ _ _ _ hcd)
          | some hout => exact .pure hout
        | _ => cases hu.symm.trans hc
      | _ => cases hc

end Call
end Schemata
