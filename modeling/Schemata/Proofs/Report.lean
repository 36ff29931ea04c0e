import Schemata.Proofs.Alone
import Schemata.Proofs.Reach

/-! # Whose issue it is

A call reports issues of its own, at its own path and about its own input, and repeats those of the
parts that it enters. So every issue of a verdict is the own issue of a call that is reached.
-/
namespace Schemata

def UnknownKeys.kept : UnknownKeys → List (String × Value) → List (String × Value)
  | .passthrough, unknown => unknown
  | .strip, _ | .strict, _ => []

namespace Call
variable {c d : Call} {i : Issue}

theorem own_custom (message : String) : c.Own (.custom c.path message) :=
  own_of_code rfl (by simp [Issue.custom]) (by simp [Issue.custom]) (by simp [Issue.custom])

theorem own_unionRefusal {message : Option String}
    (h : i ∈ (Schema.unionRefusal message c.input c.path).issues) : c.Own i := by
  rw [List.mem_singleton.mp h]
  exact ⟨rfl, fun _ => rfl, by simp [Issues.single]⟩

theorem own_or_mem_of_after {α : Type} {callback : Callback α} {next : Value → α → Value}
    {v w : Verdict} (hw : (callback.after c.path next v).outcome = .ok w) (h : i ∈ w.issues) :
    c.Own i ∨ i ∈ v.issues := by
  rcases Callback.after_eq_ok hw with rfl | ⟨value, rfl, hr⟩
  · exact .inr h
  · unfold Callback.respond at hr
    cases hs : (callback.run value).settle with
    | error p =>
      rw [hs] at hr
      cases hr
    | ok answer =>
      rw [hs] at hr
      obtain rfl := Except.ok.inj hr
      cases answer with
      | ok a => cases h
      | error message =>
        rw [List.mem_singleton.mp h]
        exact .inl (own_custom message)

/-! ## Objects and arrays -/

/-- The issues that an array has of its own. -/
def leading : Call → List Issue
  | ⟨.array _ rules, some (.array items), path⟩ => rules.issues (·.violation items) path
  | _ => []

/-- The issues that a strict object has of its own, one for each key that it does not declare. -/
def trailing : Call → List Issue
  | ⟨.object shape .strict _, some (.object entries), path⟩ =>
    (Schema.undeclared (shape.map Prod.fst) entries).map fun e => Schema.unrecognized path e.1
  | _ => []

theorem own_of_leading (h : i ∈ c.leading) : c.Own i := by
  unfold leading at h
  split at h
  · refine own_of_violation (fun k v hv => ?_) h
    rcases ArrayConstraint.code_of_violation hv with hc | hc | hc <;> simp [hc]
  · cases h

theorem own_of_trailing (h : i ∈ c.trailing) : c.Own i := by
  unfold trailing at h
  split at h
  · obtain ⟨e, _, rfl⟩ := List.mem_map.mp h
    exact own_of_code rfl (by simp [Schema.unrecognized]) (by simp [Schema.unrecognized])
      (by simp [Schema.unrecognized])
  · cases h

/-- The output of an object or array whose fields or elements give these outputs. -/
def assembled : Call → List (Option Value) → Value
  | ⟨.array _ _, some (.array _), _⟩, outs => .array (outs.map fun out => out.getD .null)
  | ⟨.object shape unknownKeys _, some (.object entries), _⟩, outs =>
    .object ((((shape.map Prod.fst).zip outs).filterMap fun f => f.2.map fun v => (f.1, v)) ++
      unknownKeys.kept (Schema.undeclared (shape.map Prod.fst) entries))
  | _, _ => .null

/-- An object or array takes from the verdicts on its parts their outputs and their issues. An array
reports its own issues before those of its elements, a strict object after those of its fields. -/
theorem close_eq_conclude (hg : c.Gathers) {vs : List Verdict} (hl : vs.length = c.parts.length) :
    c.close vs = pure (.conclude (c.assembled (vs.map Verdict.value?))
      (c.leading ++ vs.flatMap Verdict.issues ++ c.trailing)) := by
  unfold Gathers at hg
  split at hg
  · simp [close, ArrayRules.verdict, assembled, leading, trailing, Function.comp_def]
  · next shape unknownKeys _ entries path =>
    have hi : ((shape.map Prod.fst).zip vs).flatMap (fun f => f.2.issues) =
        vs.flatMap Verdict.issues := by
      have hm : ((shape.map Prod.fst).zip vs).map Prod.snd = vs :=
        List.map_snd_zip (by simp [hl, parts])
      rw [← List.flatMap_map Prod.snd Verdict.issues, hm]
    have ho : ((shape.map Prod.fst).zip vs).filterMap
          (fun f => f.2.value?.map fun v => (f.1, v)) =
        ((shape.map Prod.fst).zip (vs.map Verdict.value?)).filterMap
          fun f => f.2.map fun v => (f.1, v) := by
      rw [List.zip_map_right, List.filterMap_map]
      rfl
    cases unknownKeys <;>
      simp [close, Schema.objectVerdict, assembled, leading, trailing, UnknownKeys.kept, hi, ho]
  · cases hg

theorem close_of_gathers (hg : c.Gathers) {vs : List Verdict} (hl : vs.length = c.parts.length) :
    ∃ w, c.close vs = pure w ∧
      w.issues = c.leading ++ vs.flatMap Verdict.issues ++ c.trailing :=
  ⟨_, close_eq_conclude hg hl, Verdict.issues_conclude _ _⟩

/-! ## All calls -/

theorem own_or_mem_of_close {vs : List Verdict} {w : Verdict} (hc : c.schema.isCustom = false)
    (hu : c.isUnion = false) (hl : vs.length = c.parts.length) (hw : (c.close vs).outcome = .ok w)
    (h : i ∈ w.issues) : c.Own i ∨ ∃ v ∈ vs, i ∈ v.issues := by
  by_cases hg : c.Gathers
  · obtain ⟨w', hw', hi⟩ := close_of_gathers hg hl
    rw [hw'] at hw
    obtain rfl := Except.ok.inj hw
    rw [hi] at h
    rcases List.mem_append.mp h with h | h
    · rcases List.mem_append.mp h with h | h
      · exact .inl (own_of_leading h)
      · exact .inr (List.mem_flatMap.mp h)
    · exact .inl (own_of_trailing h)
  by_cases hp : c.parts = []
  · obtain rfl : vs = [] := List.eq_nil_of_length_eq_zero (by simp [hl, hp])
    obtain ⟨out, is, hd⟩ := exists_decides hc hu hg hp
    have hr : c.run = pure ((Verdict.settle out is).under c.path) := hd.run c.path
    rw [close_nil hu hp, hr] at hw
    obtain rfl := Except.ok.inj hw
    rw [Verdict.issues_under, Verdict.issues_settle] at h
    obtain ⟨j, hj, rfl⟩ := List.mem_map.mp h
    have ho := (hd.own j hj).under c.path
    rw [Path.root, List.append_nil] at ho
    exact .inl ho
  obtain ⟨hone, hclose⟩ := wraps hu hg hp
  obtain ⟨v, rfl⟩ := List.length_eq_one_iff.mp (hl.trans hone)
  rcases hclose with hclose | ⟨α, callback, next, _, hclose⟩
  · have hv : c.close [v] = pure v := hclose c.path v
    rw [hv] at hw
    obtain rfl := Except.ok.inj hw
    exact .inr ⟨v, List.mem_singleton_self v, h⟩
  · have ha : c.close [v] = callback.after c.path next v := hclose c.path v
    rw [ha] at hw
    exact (own_or_mem_of_after hw h).imp_right fun hi => ⟨v, List.mem_singleton_self v, hi⟩

theorem own_or_entered {w : Verdict} (hc : c.schema.isCustom = false)
    (hw : c.run.outcome = .ok w) (h : i ∈ w.issues) :
    c.Own i ∨ ∃ d v, c.Enters d ∧ d.run.outcome = .ok v ∧ i ∈ v.issues := by
  cases hu : c.isUnion with
  | true =>
    rcases union_cases hu with ⟨d, hd, ho⟩ | ⟨_, message, ho⟩
    · exact .inr ⟨d, w, hd, ho.symm.trans hw, h⟩
    · obtain rfl := Except.ok.inj (ho.symm.trans hw)
      exact .inl (own_unionRefusal h)
  | false =>
    rw [run_eq hu] at hw
    obtain ⟨vs, hvs, hw⟩ := Run.outcome_bind_eq_ok hw
    obtain ⟨g, hg, rfl⟩ := Run.exists_of_mapM_ok hvs
    rcases own_or_mem_of_close hc hu (List.length_map g) hw h with h | ⟨v, hv, hi⟩
    · exact .inl h
    · obtain ⟨d, hd, rfl⟩ := List.mem_map.mp hv
      exact .inr ⟨d, g d, enters_of_mem_parts hu (fun b hb => ⟨g b, hg b hb⟩) hd, hg d hd, hi⟩

/-- Every issue of a run is the own issue of a call that is reached. -/
theorem reached_of_mem_issues {w : Verdict} (hc : c.schema.Native) (hw : c.run.outcome = .ok w)
    (h : i ∈ w.issues) : ∃ d, c.Reaches d ∧ d.Own i := by
  induction c using partInduction generalizing w with
  | call c ih =>
    rcases own_or_entered hc.self hw h with h | ⟨d, v, hd, hv, hi⟩
    · exact ⟨c, .refl, h⟩
    · obtain ⟨e, he, ho⟩ := ih d hd.mem_parts (hd.every hc) hv hi
      exact ⟨e, .head hd he, ho⟩

end Call
end Schemata
