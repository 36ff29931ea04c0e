import Mathlib.Data.List.Nodup
import Mathlib.Data.List.Sigma
import Schemata.Proofs.Location
import Schemata.Schema.Build

/-! # Gathering the issues of fields and elements

An object or an array asks for all its fields or elements, whatever is found on the way, and
gathers what they report between issues of its own. Each of them reports under its own path, and
these paths do not overlap, so what one of them reported is read back by its path alone.
-/
namespace Schemata

def Schema.DistinctNames : Schema → Prop
  | .object shape _ _ => Entries.Distinct shape
  | _ => True

/-- The same object or array schema with each field or element watched. -/
def Schema.watchParts (id : String) : Schema → Schema
  | .array element rules => .array (watched id element element.typeName) rules
  | .object shape unknownKeys message =>
    .object (shape.map fun f => (f.1, watched id f.2 f.2.typeName)) unknownKeys message
  | s => s

theorem filter_flatMap_of_mem {α β : Type} {l : List α} {f : α → List β} (keep : β → Bool)
    {d : α} (hn : l.Nodup) (hd : d ∈ l) (hk : ∀ b ∈ f d, keep b = true)
    (ho : ∀ a ∈ l, a ≠ d → ∀ b ∈ f a, keep b = false) : (l.flatMap f).filter keep = f d := by
  obtain ⟨before, after, rfl⟩ := List.append_of_mem hd
  have hr : ∀ l' : List α, (∀ a ∈ l', a ∈ before ++ d :: after ∧ a ≠ d) →
      (l'.flatMap f).filter keep = [] := by
    intro l' hl
    refine List.filter_eq_nil_iff.mpr fun b hb => ?_
    obtain ⟨a, ha, hab⟩ := List.mem_flatMap.mp hb
    simp [ho a (hl a ha).1 (hl a ha).2 b hab]
  have hm := List.nodup_middle.mp hn
  have hx : d ∉ before ++ after := (List.nodup_cons.mp hm).1
  have hb := hr before fun a ha =>
    ⟨by simp [ha], fun h => hx (h ▸ List.mem_append_left _ ha)⟩
  have ha := hr after fun a ha =>
    ⟨by simp [ha], fun h => hx (h ▸ List.mem_append_right _ ha)⟩
  rw [List.flatMap_append, List.flatMap_cons, List.filter_append, List.filter_append, hb, ha,
    List.filter_eq_self.mpr hk]
  simp

namespace Call
variable {c d : Call}

theorem path_of_gathered_part (hg : c.Gathers) (hd : d ∈ c.parts) :
    ∃ seg, d.path = c.path ++ [seg] := by
  unfold Gathers at hg
  split at hg
  · obtain ⟨item, _, rfl⟩ := List.mem_map.mp hd
    exact ⟨_, rfl⟩
  · obtain ⟨f, _, rfl⟩ := List.mem_map.mp hd
    exact ⟨_, rfl⟩
  · cases hg

theorem nodup_parts_path (hg : c.Gathers) (hn : c.schema.DistinctNames) :
    (c.parts.map Call.path).Nodup := by
  unfold Gathers at hg
  split at hg
  · next element rules items path =>
    have hi := (List.nodup_zipIdx_map_snd items).map (f := fun i => path.index i) fun i j h => by
      simpa [Path.index] using h
    rw [List.map_map] at hi
    simp only [parts, List.map_map]
    exact hi
  · next shape _ _ entries path =>
    have hk := List.Nodup.map (f := fun name => path.key name) (fun m n h => by
      simpa [Path.key] using h) hn
    rw [Entries.names, List.map_map] at hk
    simp only [parts, List.map_map]
    exact hk
  · cases hg

theorem path_of_mem_own {i : Issue} (h : i ∈ c.leading ++ c.trailing) : i.path = c.path := by
  rcases List.mem_append.mp h with h | h
  · exact (own_of_leading h).path
  · exact (own_of_trailing h).path

/-- A path below one part is not below another, and the call's own path is below none. -/
theorem eq_of_common_extension (hg : c.Gathers) (hn : c.schema.DistinctNames) {e : Call}
    (hd : d ∈ c.parts) (he : e ∈ c.parts) {q : Path} (hq : d.path <+: q) (hr : e.path <+: q) :
    d = e := by
  obtain ⟨seg, hs⟩ := path_of_gathered_part hg hd
  obtain ⟨seg', hs'⟩ := path_of_gathered_part hg he
  have hl : d.path.length = e.path.length := by simp [hs, hs']
  have hpre := List.prefix_of_prefix_length_le hq hr (Nat.le_of_eq hl)
  have hp : d.path = e.path := hpre.eq_of_length hl
  exact List.inj_on_of_nodup_map (nodup_parts_path hg hn) hd he hp

theorem not_prefix_own (hg : c.Gathers) (hd : d ∈ c.parts) : ¬ d.path <+: c.path := by
  intro h
  obtain ⟨seg, hs⟩ := path_of_gathered_part hg hd
  have hl := h.length_le
  rw [hs, List.length_append, List.length_singleton] at hl
  omega

/-! ## Watching the parts -/

def watch (id : String) (d : Call) : Call :=
  ⟨.watched id d.schema d.schema.typeName, d.input, d.path⟩

def watchParts (id : String) (c : Call) : Call := ⟨c.schema.watchParts id, c.input, c.path⟩

theorem run_watch {v : Verdict} (id : String) (h : d.run.outcome = .ok v) :
    (d.watch id).run = ⟨.visited id d.path d.input :: d.run.log, .ok v⟩ := by
  show Run.tell (.visited id d.path d.input) >>= (fun _ => d.run) = _
  rw [Run.bind_of_ok rfl, h]
  rfl

theorem parts_watchParts (hg : c.Gathers) (id : String) :
    (c.watchParts id).parts = c.parts.map (watch id) := by
  unfold Gathers at hg
  split at hg
  · simp [watchParts, Schema.watchParts, parts, watch]
  · simp [watchParts, Schema.watchParts, parts, watch]
  · cases hg

theorem gathers_watchParts (hg : c.Gathers) (id : String) : (c.watchParts id).Gathers := by
  unfold Gathers at hg
  split at hg
  · trivial
  · trivial
  · cases hg

theorem close_watchParts (hg : c.Gathers) (id : String) : (c.watchParts id).close = c.close := by
  unfold Gathers at hg
  split at hg
  · rfl
  · funext vs
    simp only [watchParts, Schema.watchParts, close, List.map_map]
    rfl
  · cases hg

/-! ## What is gathered -/

/-- The verdict on an object or array against the verdicts on its parts, each validated alone. -/
structure Gathered (c : Call) (verdict : Verdict) (alone : Call → Verdict) : Prop where
  parts : ∀ d ∈ c.parts, d.run.outcome = .ok (alone d)
  issues : verdict.issues =
    c.leading ++ c.parts.flatMap (fun d => (alone d).issues) ++ c.trailing
  through : ∀ d ∈ c.parts,
    verdict.issues.filter (fun i => d.path.isPrefixOf i.path) = (alone d).issues
  silent : ∀ d ∈ c.parts, (alone d).issues = [] ↔ ∃ out, alone d = .ok out
  remaining : verdict.issues.filter (fun i => !c.parts.any fun d => d.path.isPrefixOf i.path) =
    c.leading ++ c.trailing
  own : ∀ i ∈ c.leading ++ c.trailing, i.path = c.path
  success : (∃ out, verdict = .ok out) ↔
    c.leading = [] ∧ c.trailing = [] ∧ ∀ d ∈ c.parts, (alone d).issues = []

theorem filter_own (hg : c.Gathers) (hd : d ∈ c.parts) {is : List Issue}
    (hs : ∀ i ∈ is, i.path = c.path) : is.filter (fun i => d.path.isPrefixOf i.path) = [] := by
  refine List.filter_eq_nil_iff.mpr fun i hi => ?_
  rw [hs i hi, List.isPrefixOf_iff_prefix]
  exact not_prefix_own hg hd

theorem filter_remaining_own (hg : c.Gathers) {is : List Issue} (hs : ∀ i ∈ is, i.path = c.path) :
    is.filter (fun i => !c.parts.any fun d => d.path.isPrefixOf i.path) = is := by
  refine List.filter_eq_self.mpr fun i hi => ?_
  rw [hs i hi, Bool.not_eq_true', List.any_eq_false]
  intro d hd
  rw [List.isPrefixOf_iff_prefix]
  exact not_prefix_own hg hd

theorem gathered_of_issues (hg : c.Gathers) (hn : c.schema.DistinctNames)
    (hp : ∀ d ∈ c.parts, d.schema.Native) {verdict : Verdict} {alone : Call → Verdict}
    (hr : ∀ d ∈ c.parts, d.run.outcome = .ok (alone d))
    (hi : verdict.issues =
      c.leading ++ c.parts.flatMap (fun d => (alone d).issues) ++ c.trailing) :
    c.Gathered verdict alone where
  parts := hr
  issues := hi
  own := fun i h => path_of_mem_own h
  silent := fun d _ => Verdict.issues_eq_nil_iff
  through := by
    intro d hd
    have hb : ∀ e ∈ c.parts, ∀ i ∈ (alone e).issues, e.path <+: i.path := fun e he i h =>
      prefix_of_mem_issues (hp e he) (hr e he) h
    have hm := filter_flatMap_of_mem (f := fun e => (alone e).issues)
      (fun i => d.path.isPrefixOf i.path) (nodup_parts_path hg hn).of_map hd
      (fun i h => List.isPrefixOf_iff_prefix.mpr (hb d hd i h)) (fun e he hne i h => by
        rw [← Bool.not_eq_true, List.isPrefixOf_iff_prefix]
        exact fun hq => hne (eq_of_common_extension hg hn he hd (hb e he i h) hq))
    have hl := filter_own hg hd fun i h => path_of_mem_own (List.mem_append_left _ h)
    have ht := filter_own hg hd fun i h => path_of_mem_own (List.mem_append_right _ h)
    rw [hi, List.filter_append, List.filter_append, hl, hm, ht, List.nil_append, List.append_nil]
  remaining := by
    have hm : (c.parts.flatMap fun d => (alone d).issues).filter
        (fun i => !c.parts.any fun d => d.path.isPrefixOf i.path) = [] := by
      refine List.filter_eq_nil_iff.mpr fun i h => ?_
      obtain ⟨d, hd, hid⟩ := List.mem_flatMap.mp h
      have hq := prefix_of_mem_issues (hp d hd) (hr d hd) hid
      simp only [Bool.not_eq_true', List.any_eq_false, not_forall, not_not]
      exact ⟨d, hd, List.isPrefixOf_iff_prefix.mpr hq⟩
    have hl := filter_remaining_own hg fun i h => path_of_mem_own (List.mem_append_left _ h)
    have ht := filter_remaining_own hg fun i h => path_of_mem_own (List.mem_append_right _ h)
    rw [hi, List.filter_append, List.filter_append, hl, hm, ht, List.append_nil]
  success := by
    rw [← Verdict.issues_eq_nil_iff, hi]
    simp only [List.append_eq_nil_iff, List.flatMap_eq_nil_iff]
    tauto

theorem run_of_gathers (hg : c.Gathers) {alone : Call → Verdict}
    (hr : ∀ d ∈ c.parts, d.run.outcome = .ok (alone d)) :
    ∃ verdict, c.run.outcome = .ok verdict ∧ c.close (c.parts.map alone) = pure verdict ∧
      verdict.issues = c.leading ++ c.parts.flatMap (fun d => (alone d).issues) ++ c.trailing := by
  have hl : (c.parts.map alone).length = c.parts.length := List.length_map alone
  obtain ⟨verdict, hc, hi⟩ := close_of_gathers hg hl
  refine ⟨verdict, ?_, hc, by rw [hi, List.flatMap_map]⟩
  rw [run_eq (isUnion_of_gathers hg), Run.mapM_of_ok hr, Run.bind_of_ok rfl, hc]
  rfl

theorem exists_verdict_of_parts (hg : c.Gathers) (hp : ∀ d ∈ c.parts, d.schema.Native)
    (hq : ∀ d ∈ c.parts, d.schema.Quiet) : ∃ verdict, c.run.outcome = .ok verdict := by
  obtain ⟨alone, hr⟩ := Run.exists_results fun d hd => exists_verdict (hp d hd) (hq d hd)
  obtain ⟨verdict, hv, _⟩ := run_of_gathers hg hr
  exact ⟨verdict, hv⟩

theorem gathered_of_verdict (hg : c.Gathers) (hn : c.schema.DistinctNames)
    (hp : ∀ d ∈ c.parts, d.schema.Native) {verdict : Verdict} (hv : c.run.outcome = .ok verdict) :
    ∃ alone, c.Gathered verdict alone ∧ c.close (c.parts.map alone) = pure verdict := by
  have hparts := hv
  rw [run_eq (isUnion_of_gathers hg)] at hparts
  obtain ⟨vs, hvs, _⟩ := Run.outcome_bind_eq_ok hparts
  obtain ⟨alone, hr, _⟩ := Run.exists_of_mapM_ok hvs
  obtain ⟨verdict', hv', hc, hi⟩ := run_of_gathers hg hr
  obtain rfl := Except.ok.inj (hv'.symm.trans hv)
  exact ⟨alone, gathered_of_issues hg hn hp hr hi, hc⟩

theorem run_watchParts (hg : c.Gathers) (id : String) {alone : Call → Verdict} {verdict : Verdict}
    (hr : ∀ d ∈ c.parts, d.run.outcome = .ok (alone d))
    (hc : c.close (c.parts.map alone) = pure verdict) :
    (c.watchParts id).run =
      ⟨c.parts.flatMap fun d => .visited id d.path d.input :: d.run.log, .ok verdict⟩ := by
  have hw : ∀ d ∈ c.parts, ((run ∘ watch id) d).outcome = .ok (alone d) := fun d hd => by
    rw [Function.comp_apply, run_watch id (hr d hd)]
  have hl : (c.parts.flatMap fun d => ((run ∘ watch id) d).log) =
      c.parts.flatMap fun d => .visited id d.path d.input :: d.run.log :=
    List.flatMap_congr fun d hd => by rw [Function.comp_apply, run_watch id (hr d hd)]
  have hu := isUnion_of_gathers (gathers_watchParts hg id)
  rw [run_eq hu, parts_watchParts hg, close_watchParts hg, List.mapM_map, Run.mapM_of_ok hw,
    Run.bind_of_ok rfl, hc, hl]
  simp

end Call

/-- An object or array whose fields or elements have the library's own schemas gathers what each of
them reports alone: all of it, in order, under the path of the one it came from, and between the
issues of the object or array itself. When the parts are watched, each is seen once, in order. -/
theorem issues_gathered {c : Call} (hg : c.Gathers) (hn : c.schema.DistinctNames)
    (hp : ∀ d ∈ c.parts, d.schema.Native) (id : String) :
    ((∀ d ∈ c.parts, d.schema.Quiet) → ∃ verdict, c.run.outcome = .ok verdict) ∧
    ∀ verdict, c.run.outcome = .ok verdict → ∃ alone, c.Gathered verdict alone ∧
      (c.watchParts id).run =
        ⟨c.parts.flatMap fun d => .visited id d.path d.input :: d.run.log, .ok verdict⟩ := by
  constructor
  · exact Call.exists_verdict_of_parts hg hp
  · intro verdict hv
    obtain ⟨alone, hgathered, hc⟩ := Call.gathered_of_verdict hg hn hp hv
    exact ⟨alone, hgathered, Call.run_watchParts hg id hgathered.parts hc⟩

def badOrder : Call where
  schema := .object
    [("number", .number .none), ("items", .array (.string .none) (ArrayRules.min .none 3))]
    .strict none
  input := some (.object [("items", .array [.string "pen", .bool true]), ("note", .null)])
  path := [.key "order"]

theorem native_badOrder_parts : ∀ d ∈ badOrder.parts, d.schema.Native := by
  have hnumber : Schema.Native (.number .none) := .leaf rfl rfl
  have hitem : Schema.Native (.string .none) := .leaf rfl rfl
  have hitems : Schema.Native (.array (.string .none) (ArrayRules.min .none 3)) :=
    .wrap rfl rfl hitem
  exact List.forall_mem_cons.mpr ⟨hnumber, List.forall_mem_singleton.mpr hitems⟩

theorem issues_gathered_badOrder :
    badOrder.Gathers ∧ badOrder.schema.DistinctNames ∧ (∀ d ∈ badOrder.parts, d.schema.Native) ∧
      ∃ verdict alone, badOrder.run.outcome = .ok verdict ∧ badOrder.Gathered verdict alone ∧
        verdict.issues.map Issue.path =
          [[.key "order", .key "number"], [.key "order", .key "items"],
            [.key "order", .key "items", .index 1], [.key "order"]] := by
  have hn : badOrder.schema.DistinctNames := by
    simp [badOrder, Schema.DistinctNames, Entries.Distinct]
  have hp : badOrder.run.outcome.map (fun v => v.issues.map Issue.path) =
    .ok [[.key "order", .key "number"], [.key "order", .key "items"],
      [.key "order", .key "items", .index 1], [.key "order"]] := rfl
  obtain ⟨verdict, hv⟩ : ∃ verdict, badOrder.run.outcome = .ok verdict := ⟨_, rfl⟩
  obtain ⟨_, ha⟩ := issues_gathered (c := badOrder) trivial hn native_badOrder_parts "part"
  obtain ⟨alone, hg, _⟩ := ha verdict hv
  rw [hv] at hp
  exact ⟨trivial, hn, native_badOrder_parts, verdict, alone, hv, hg, Except.ok.inj hp⟩

end Schemata
