import Schemata.Proofs.Containment

/-! # Outputs

What an accepted array or object gives is built from what its elements or fields give, and no node
of the library gives nothing for an input that is present.
-/
namespace Schemata

/-- The entries that the fields of a shape give to an output, in the order of the shape. -/
def produced (shape : List (String × Schema)) (o : String × Schema → Option Value) :
    List (String × Value) :=
  shape.filterMap fun f => (o f).map fun v => (f.1, v)

theorem mem_produced {shape : List (String × Schema)} {o : String × Schema → Option Value}
    {e : String × Value} (h : e ∈ produced shape o) : ∃ f ∈ shape, f.1 = e.1 ∧ o f = some e.2 := by
  obtain ⟨f, hf, he⟩ := List.mem_filterMap.mp h
  obtain ⟨v, hv, rfl⟩ := Option.map_eq_some_iff.mp he
  exact ⟨f, hf, rfl, hv⟩

theorem names_produced_sublist (shape : List (String × Schema))
    (o : String × Schema → Option Value) :
    (Entries.names (produced shape o)).Sublist (shape.map Prod.fst) := by
  induction shape with
  | nil => exact List.Sublist.refl []
  | cons f shape ih =>
    cases h : o f with
    | none => simpa [produced, h] using ih.cons f.1
    | some v => simpa [produced, h] using ih

theorem UnknownKeys.kept_sublist (u : UnknownKeys) (unknown : List (String × Value)) :
    (u.kept unknown).Sublist unknown := by
  cases u with
  | passthrough => exact List.Sublist.refl unknown
  | strip | strict => exact List.nil_sublist unknown

theorem UnknownKeys.mem_kept_undeclared {u : UnknownKeys} {names : List String}
    {entries : List (String × Value)} {e : String × Value}
    (h : e ∈ u.kept (Schema.undeclared names entries)) : e ∈ entries ∧ e.1 ∉ names := by
  have hm := (u.kept_sublist _).subset h
  obtain ⟨he, hn⟩ := List.mem_filter.mp hm
  exact ⟨he, by simpa using hn⟩

theorem distinct_output {shape : List (String × Schema)} {entries : List (String × Value)}
    (hs : Entries.Distinct shape) (he : Entries.Distinct entries)
    (o : String × Schema → Option Value) (u : UnknownKeys) :
    Entries.Distinct
      (produced shape o ++ u.kept (Schema.undeclared (shape.map Prod.fst) entries)) := by
  have hp : Entries.Distinct (produced shape o) := (names_produced_sublist shape o).nodup hs
  have hk : Entries.Distinct (u.kept (Schema.undeclared (shape.map Prod.fst) entries)) :=
    ((u.kept_sublist _).map Prod.fst).nodup (he.filter _)
  refine hp.append hk fun name hname hother => ?_
  obtain ⟨e, hm, rfl⟩ := List.mem_map.mp hother
  have hdeclared := (names_produced_sublist shape o).subset hname
  exact (UnknownKeys.mem_kept_undeclared hm).2 hdeclared

/-! ## Objects and arrays -/

theorem Schema.objectVerdict_ok_iff {unknownKeys : UnknownKeys} {unknown : List (String × Value)}
    {p : Path} {fields : List (String × Verdict)} {out : Option Value} :
    objectVerdict unknownKeys unknown p fields = .ok out ↔
      (∀ f ∈ fields, f.2.issues = []) ∧ (unknownKeys = .strict → unknown = []) ∧
      out = some (.object ((fields.filterMap fun f => f.2.value?.map fun v => (f.1, v)) ++
        unknownKeys.kept unknown)) := by
  cases unknownKeys with
  | strip | passthrough =>
    simp [objectVerdict, Verdict.conclude_eq_ok_iff, UnknownKeys.kept]
  | strict =>
    simp [objectVerdict, Verdict.conclude_eq_ok_iff, UnknownKeys.kept, and_assoc]

namespace Call

theorem array_ok_iff {element : Schema} {rules : ArrayRules} {items : List Value} {p : Path}
    {out : Option Value} :
    (run ⟨.array element rules, some (.array items), p⟩).outcome = .ok (.ok out) ↔
      (∀ r ∈ rules.rules, r.constraint.violation items = none) ∧
      ∃ o : Call → Option Value,
        (∀ d ∈ parts ⟨.array element rules, some (.array items), p⟩,
          d.run.outcome = .ok (.ok (o d))) ∧
        out = some (.array ((parts ⟨.array element rules, some (.array items), p⟩).map fun d =>
          (o d).getD .null)) := by
  rw [run_eq (c := ⟨.array element rules, some (.array items), p⟩) rfl]
  constructor
  · intro h
    obtain ⟨vs, hvs, h⟩ := Run.outcome_bind_eq_ok h
    obtain ⟨g, hg, rfl⟩ := Run.exists_of_mapM_ok hvs
    obtain ⟨hi, rfl⟩ := Verdict.conclude_eq_ok_iff.mp (Except.ok.inj h)
    obtain ⟨hr, he⟩ := List.append_eq_nil_iff.mp hi
    refine ⟨Rules.issues_eq_nil_iff.mp hr, fun d => (g d).value?, ?_, by simp [Function.comp_def]⟩
    intro d hd
    have hn := List.flatMap_eq_nil_iff.mp he (g d) (List.mem_map_of_mem hd)
    rw [hg d hd, ← Verdict.eq_ok_of_issues_eq_nil hn]
  · rintro ⟨hr, o, ho, rfl⟩
    rw [Run.mapM_of_ok ho, Run.bind_of_ok rfl]
    refine congrArg Except.ok (Verdict.conclude_eq_ok_iff.mpr ⟨?_, ?_⟩)
    · rw [Rules.issues_eq_nil_iff.mpr hr]
      simp
    · simp [Function.comp_def, Verdict.value?]

theorem exists_items_of_ok {element : Schema} {rules : ArrayRules} {x : Option Value} {p : Path}
    {out : Option Value} (h : (run ⟨.array element rules, x, p⟩).outcome = .ok (.ok out)) :
    ∃ items, x = some (.array items) := by
  match x with
  | some (.array items) => exact ⟨items, rfl⟩
  | none | some .null | some (.bool _) | some (.number _) | some (.string _)
  | some (.object _) => cases h

theorem validateFields_ok_iff {shape : List (String × Schema)} {entries : List (String × Value)}
    {p : Path} {fields : List (String × Verdict)} :
    (Schema.validateFields shape entries p).outcome = .ok fields ↔
      ∃ g : String × Schema → Verdict,
        (∀ f ∈ shape, (f.2.validate (entries.lookup f.1) (p.key f.1)).outcome = .ok (g f)) ∧
        fields = shape.map fun f => (f.1, g f) := by
  rw [validateFields_eq, List.mapM_map]
  constructor
  · intro h
    obtain ⟨vs, hvs, h⟩ := Run.outcome_bind_eq_ok h
    obtain ⟨g, hg, rfl⟩ := Run.exists_of_mapM_ok hvs
    refine ⟨g, hg, ?_⟩
    rw [← Except.ok.inj h, List.zip_map']
  · rintro ⟨g, hg, rfl⟩
    have hm : (shape.mapM (run ∘ fun f => ⟨f.2, entries.lookup f.1, p.key f.1⟩)).outcome =
      .ok (shape.map g) := congrArg Run.outcome (Run.mapM_of_ok hg)
    rw [Run.bind_of_ok hm, List.zip_map']
    rfl

theorem object_ok_iff {shape : List (String × Schema)} {unknownKeys : UnknownKeys}
    {message : Option String} {entries : List (String × Value)} {p : Path} {out : Option Value} :
    (run ⟨.object shape unknownKeys message, some (.object entries), p⟩).outcome = .ok (.ok out) ↔
      ∃ o : String × Schema → Option Value,
        (∀ f ∈ shape, (f.2.validate (entries.lookup f.1) (p.key f.1)).outcome = .ok (.ok (o f))) ∧
        (unknownKeys = .strict → Schema.undeclared (shape.map Prod.fst) entries = []) ∧
        out = some (.object (produced shape o ++
          unknownKeys.kept (Schema.undeclared (shape.map Prod.fst) entries))) := by
  simp only [run, Schema.validate]
  constructor
  · intro h
    obtain ⟨fields, hf, h⟩ := Run.outcome_bind_eq_ok h
    obtain ⟨g, hg, rfl⟩ := validateFields_ok_iff.mp hf
    obtain ⟨hi, hu, rfl⟩ := Schema.objectVerdict_ok_iff.mp (Except.ok.inj h)
    rw [List.forall_mem_map] at hi
    refine ⟨fun f => (g f).value?, ?_, hu, by rw [List.filterMap_map]; rfl⟩
    intro f hf
    rw [hg f hf, ← Verdict.eq_ok_of_issues_eq_nil (hi f hf)]
  · rintro ⟨o, ho, hu, rfl⟩
    rw [Run.bind_of_ok (validateFields_ok_iff.mpr ⟨fun f => .ok (o f), ho, rfl⟩)]
    refine congrArg Except.ok (Schema.objectVerdict_ok_iff.mpr ⟨?_, hu, ?_⟩)
    · rw [List.forall_mem_map]
      exact fun f _ => rfl
    · rw [List.filterMap_map]
      rfl

theorem exists_entries_of_ok {shape : List (String × Schema)} {unknownKeys : UnknownKeys}
    {message : Option String} {x : Option Value} {p : Path} {out : Option Value}
    (h : (run ⟨.object shape unknownKeys message, x, p⟩).outcome = .ok (.ok out)) :
    ∃ entries, x = some (.object entries) := by
  match x with
  | some (.object entries) => exact ⟨entries, rfl⟩
  | none | some .null | some (.bool _) | some (.number _) | some (.string _)
  | some (.array _) => cases h

end Call

/-! ## Presence -/

/-- A present input that is accepted gives a value. -/
theorem Schema.present_of_present {s : Schema} (hs : s.Native) {v : Value} {p : Path}
    {out : Option Value} (h : (s.validate (some v) p).outcome = .ok (.ok out)) :
    ∃ y, out = some y := by
  induction hs generalizing v p out with
  | @node s here below ih =>
    cases s with
    | custom name run => cases here
    | string _ | number _ | boolean _ | literal _ _ | choice _ _ | null | undefined | void | any
    | unknown => exact ⟨v, eq_of_leaf_ok rfl h⟩
    | array element rules =>
      cases v with
      | array items =>
        obtain ⟨_, o, _, rfl⟩ := Call.array_ok_iff.mp h
        exact ⟨_, rfl⟩
      | _ => cases h
    | object shape unknownKeys message =>
      cases v with
      | object entries =>
        obtain ⟨o, _, _, rfl⟩ := Call.object_ok_iff.mp h
        exact ⟨_, rfl⟩
      | _ => cases h
    | union options message =>
      obtain ⟨o, hm, ho⟩ := Call.exists_option_of_ok h
      exact ih o hm ho
    | optional inner | withDefault inner value | boxed inner =>
      exact ih inner List.mem_cons_self h
    | nullable inner =>
      cases v with
      | null => cases h; exact ⟨.null, rfl⟩
      | _ => exact ih inner List.mem_cons_self h
    | refine inner check | transform inner mapper =>
      obtain ⟨w, hw, h⟩ := Run.outcome_bind_eq_ok h
      rcases Callback.after_ok_iff.mp h with ⟨rfl, _⟩ | ⟨value, a, _, _, rfl⟩
      · obtain ⟨y, hy⟩ := ih inner List.mem_cons_self hw
        cases hy
      · exact ⟨_, rfl⟩

end Schemata
