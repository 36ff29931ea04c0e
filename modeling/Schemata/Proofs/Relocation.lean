import Schemata.Proofs.Report
import Schemata.Proofs.Simulation

/-! # Moving a validation to another place

A schema of the library's own looks at its path only to write it into issues. So a validation at a
longer path is that at the rest of the path, with the missing front put before the path of every
issue: callbacks run alike, outputs are the same, and nothing else of an issue changes.
-/
namespace Schemata

theorem Callback.after_under {α : Type} (c : Callback α) (p q : Path) (next : Value → α → Value)
    (v : Verdict) : c.after (p ++ q) next (v.under p) = Verdict.under p <$> c.after q next v := by
  match v with
  | .ok none => rfl
  | .error is => rfl
  | .ok (some value) =>
    have hr : c.respond (p ++ q) next value = (c.respond q next value).map (Verdict.under p) := by
      unfold Callback.respond
      rcases (c.run value).settle with _ | _ | _ <;> rfl
    rw [Verdict.under_ok, after_some, after_some, hr]
    exact Run.ext (by simp) (by simp)

namespace Call
variable {c : Call} (p : Path)

def under (c : Call) : Call := ⟨c.schema, c.input, p ++ c.path⟩

theorem parts_under (c : Call) : (c.under p).parts = c.parts.map (under p) := by
  obtain ⟨s, x, q⟩ := c
  cases s with
  | array element rules =>
    rcases x with _ | v
    · rfl
    cases v with
    | array items => simp [under, parts, Path.index, Function.comp_def]
    | _ => rfl
  | object shape unknownKeys message =>
    rcases x with _ | v
    · rfl
    cases v with
    | object entries => simp [under, parts, Path.key, Function.comp_def]
    | _ => rfl
  | union options message => simp [under, parts, Function.comp_def]
  | optional inner | withDefault inner value => cases x <;> rfl
  | nullable inner =>
    rcases x with _ | v
    · rfl
    cases v <;> rfl
  | _ => rfl

section Gathers
variable (hg : c.Gathers)
include hg

theorem gathers_under : (c.under p).Gathers := by
  unfold Gathers at hg
  split at hg
  · trivial
  · trivial
  · cases hg

theorem assembled_under : (c.under p).assembled = c.assembled := by
  unfold Gathers at hg
  split at hg
  · rfl
  · rfl
  · cases hg

theorem own_issues_under : (c.under p).leading = c.leading.map (Issue.under p) ∧
    (c.under p).trailing = c.trailing.map (Issue.under p) := by
  unfold Gathers at hg
  split at hg
  · next rules items q => exact ⟨rules.issues_under _ p q, rfl⟩
  · next unknownKeys _ _ q =>
    refine ⟨rfl, ?_⟩
    cases unknownKeys with
    | strip | passthrough => rfl
    | strict =>
      simp only [under, trailing, List.map_map]
      rfl
  · cases hg

theorem close_under_of_gathers {vs : List Verdict} (hl : vs.length = c.parts.length) :
    (c.under p).close (vs.map (Verdict.under p)) = Verdict.under p <$> c.close vs := by
  have hlu : (vs.map (Verdict.under p)).length = (c.under p).parts.length := by
    rw [parts_under, List.length_map, List.length_map, hl]
  obtain ⟨hleading, htrailing⟩ := own_issues_under p hg
  rw [close_eq_conclude hg hl, close_eq_conclude (gathers_under p hg) hlu, map_pure,
    Verdict.under_conclude, assembled_under p hg, hleading, htrailing]
  simp only [List.map_append, List.map_map, List.map_flatMap, List.flatMap_map, Function.comp_def,
    Verdict.value?_under, Verdict.issues_under]

end Gathers

theorem close_under {vs : List Verdict} (hc : c.schema.isCustom = false)
    (hu : c.isUnion = false) (hl : vs.length = c.parts.length) :
    (c.under p).close (vs.map (Verdict.under p)) = Verdict.under p <$> c.close vs := by
  by_cases hg : c.Gathers
  · exact close_under_of_gathers p hg hl
  by_cases hp : c.parts = []
  · obtain rfl : vs = [] := List.eq_nil_of_length_eq_zero (by simp [hl, hp])
    have hp' : (c.under p).parts = [] := by rw [parts_under, hp, List.map_nil]
    rw [List.map_nil, close_nil hu hp, close_nil (c := c.under p) hu hp']
    obtain ⟨out, is, hd⟩ := exists_decides hc hu hg hp
    have hq : c.run = pure ((Verdict.settle out is).under c.path) := hd.run c.path
    have hpq : (c.under p).run = pure ((Verdict.settle out is).under (p ++ c.path)) := hd.run _
    rw [hq, hpq, map_pure, Verdict.under_under]
  obtain ⟨hone, hclose⟩ := wraps hu hg hp
  obtain ⟨v, rfl⟩ := List.length_eq_one_iff.mp (hl.trans hone)
  rcases hclose with hclose | ⟨α, callback, next, _, hclose⟩
  · have hq : c.close [v] = pure v := hclose c.path v
    have hpq : (c.under p).close [v.under p] = pure (v.under p) := hclose (p ++ c.path) _
    rw [List.map_singleton, hq, hpq, map_pure]
  · have hq : c.close [v] = callback.after c.path next v := hclose c.path v
    have hpq : (c.under p).close [v.under p] = callback.after (p ++ c.path) next (v.under p) :=
      hclose (p ++ c.path) _
    rw [List.map_singleton, hq, hpq, callback.after_under]

theorem simulation_under : Simulation (fun c d => c.schema.Native ∧ d = c.under p)
    (fun v w => w = v.under p) where
  sound := by
    rintro v _ rfl
    simp
  isUnion := by
    rintro c _ ⟨_, rfl⟩
    rfl
  parts := by
    rintro c _ ⟨hc, rfl⟩
    rw [parts_under, List.forall₂_map_right_iff, List.forall₂_same]
    exact fun d hd => ⟨hc.child (mem_children_of_mem_parts hd), rfl⟩
  close := by
    rintro c _ vs ws ⟨hc, rfl⟩ hu hl hvw
    have hws : ws = vs.map (Verdict.under p) := by
      have hm : List.Forall₂ (fun w v => w = v) ws (vs.map (Verdict.under p)) :=
        List.forall₂_map_right_iff.mpr hvw.flip
      rwa [List.forall₂_eq_eq_eq] at hm
    rw [hws, close_under p hc.self hu hl]
    exact .map _ fun _ => rfl
  refusal := by
    rintro options message x q _ _ _ _ ⟨_, h⟩
    cases h
    rfl

theorem run_under (hc : c.schema.Native) : (c.under p).run = Verdict.under p <$> c.run :=
  ((simulation_under p).run ⟨hc, rfl⟩).eq_map

end Call

theorem Schema.validate_under {s : Schema} (hs : s.Native) (x : Option Value) (p q : Path) :
    s.validate x (p ++ q) = Verdict.under p <$> s.validate x q :=
  Call.run_under (c := ⟨s, x, q⟩) p hs

theorem Schema.accepts_anywhere {s : Schema} (hs : s.Native) {x out : Option Value} {p : Path}
    (h : (s.validate x p).outcome = .ok (.ok out)) (q : Path) :
    (s.validate x q).outcome = .ok (.ok out) := by
  have hp := validate_under hs x p []
  have hq := validate_under hs x q []
  rw [List.append_nil] at hp hq
  rw [hp, Run.outcome_map] at h
  rw [hq, Run.outcome_map]
  cases hr : (s.validate x []).outcome with
  | error e => simp [hr, Except.map] at h
  | ok v =>
    rw [hr] at h
    have hv := Verdict.under_eq_ok_iff.mp (Except.ok.inj h)
    rw [hv]
    rfl

end Schemata
