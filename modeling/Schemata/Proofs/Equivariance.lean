import Schemata.Proofs.Aggregation
import Schemata.Proofs.Relocation

/-! # Equivariance in the place

Validating at a path is validating at the root and then putting the path before that of every issue.
A field or an element is validated under its own path, so what a schema reports there is what it
reports at the root, relocated.
-/
namespace Schemata

namespace Schema
variable {s : Schema} {x : Option Value}

theorem validate_at (hs : s.Native) (x : Option Value) (p : Path) :
    s.validate x p = Verdict.under p <$> s.validate x Path.root := by
  have hp := validate_under hs x p Path.root
  rwa [show p ++ Path.root = p from List.append_nil p] at hp

theorem validate_of_root (hs : s.Native) {v : Verdict}
    (h : (s.validate x Path.root).outcome = .ok v) (p : Path) :
    s.validate x p = ⟨(s.validate x Path.root).log, .ok (v.under p)⟩ := by
  rw [validate_at hs]
  exact Run.ext (Run.log_map _ _) (by rw [Run.outcome_map, h]; rfl)

end Schema

/-- What an object or array reports below a field or an element is what the schema there reports
at the root, relocated. -/
theorem Call.issues_through_part {c d : Call} (hg : c.Gathers) (hn : c.schema.DistinctNames)
    (hp : ∀ e ∈ c.parts, e.schema.Native) (hd : d ∈ c.parts) {v w : Verdict}
    (hv : (d.schema.validate d.input Path.root).outcome = .ok v) (hw : c.run.outcome = .ok w) :
    w.issues.filter (fun i => d.path.isPrefixOf i.path) = v.issues.map (Issue.under d.path) := by
  obtain ⟨alone, hc, _⟩ := gathered_of_verdict hg hn hp hw
  have hrun : d.run.outcome = .ok (v.under d.path) := by
    rw [run, Schema.validate_of_root (hp d hd) hv]
  have halone : alone d = v.under d.path := Except.ok.inj ((hc.parts d hd).symm.trans hrun)
  rw [hc.through d hd, halone, Verdict.issues_under]

/-- The library's own schemas accept the same inputs in every place, with the same output and the
same calls of callbacks, and refuse them with the same issues but for the place, which comes before
their paths. In particular this holds under a field or an element of any object or array. -/
theorem validation_equivariant {s : Schema} (hs : s.Native) (x : Option Value) (p : Path) :
    (s.Quiet → ∃ verdict, (s.validate x Path.root).outcome = .ok verdict) ∧
    (∀ e, (s.validate x p).outcome = .error e ↔ (s.validate x Path.root).outcome = .error e) ∧
    (s.validate x p).log = (s.validate x Path.root).log ∧
    ∀ verdict, (s.validate x Path.root).outcome = .ok verdict →
      (∀ out, (s.validate x p).outcome = .ok (.ok out) ↔ verdict = .ok out) ∧
      (∀ is, verdict = .error is → ∃ js, (s.validate x p).outcome = .ok (.error js) ∧
        js.toList = is.toList.map fun i => { i with path := p ++ i.path }) ∧
      ∀ c d : Call, c.Gathers → c.schema.DistinctNames → (∀ e ∈ c.parts, e.schema.Native) →
        d ∈ c.parts → d.schema = s → d.input = x →
        ((∀ e ∈ c.parts, e.schema.Quiet) → ∃ w, c.run.outcome = .ok w) ∧
        ∀ w, c.run.outcome = .ok w →
          w.issues.filter (fun i => d.path.isPrefixOf i.path) =
            verdict.issues.map fun i => { i with path := d.path ++ i.path } := by
  refine ⟨fun hq => Schema.exists_verdict hs hq x Path.root, ?_, ?_, ?_⟩
  · intro e
    rw [Schema.validate_at hs, Run.outcome_map]
    cases (s.validate x Path.root).outcome <;> simp [Except.map]
  · rw [Schema.validate_at hs, Run.log_map]
  intro verdict hv
  have hp := Schema.validate_of_root hs hv p
  refine ⟨?_, ?_, ?_⟩
  · intro out
    rw [hp, Except.ok.injEq, Verdict.under_eq_ok_iff]
  · rintro is rfl
    exact ⟨is.under p, by rw [hp, Verdict.under_error], rfl⟩
  · rintro c d hg hn hparts hd rfl rfl
    exact ⟨Call.exists_verdict_of_parts hg hparts,
      fun w hw => Call.issues_through_part hg hn hparts hd hv hw⟩

def label : Schema :=
  .object [("text", .refine (.string .none) ⟨"print", fun _ => .fault (Fault.message "no paper")⟩)]
    .strict none

def labelled : Value := .object [("text", .string "A"), ("note", .null)]

def shelf : Call := ⟨.array label .none, some (.array [.null, labelled]), [.key "shelf"]⟩

theorem native_label : label.Native := by
  have htext : Schema.Native (.string .none) := .leaf rfl rfl
  have hprinted : Schema.Native
      (.refine (.string .none) ⟨"print", fun _ => .fault (Fault.message "no paper")⟩) :=
    .wrap rfl rfl htext
  exact .wrap rfl rfl hprinted

theorem validation_equivariant_label :
    label.Native ∧ (label.validate (some labelled) []).outcome =
        .ok (.error ⟨.custom [.key "text"] "no paper", [Schema.unrecognized [] "note"]⟩) ∧
      ∃ w, shelf.run.outcome = .ok w ∧
        w.issues.filter (fun i => [.key "shelf", .index 1].isPrefixOf i.path) =
          [.custom [.key "shelf", .index 1, .key "text"] "no paper",
            Schema.unrecognized [.key "shelf", .index 1] "note"] := by
  have hr : (label.validate (some labelled) []).outcome =
    .ok (.error ⟨.custom [.key "text"] "no paper", [Schema.unrecognized [] "note"]⟩) := rfl
  obtain ⟨_, _, _, hroot⟩ := validation_equivariant native_label (some labelled) [.key "shelf"]
  obtain ⟨_, _, hthrough⟩ := hroot _ hr
  have hparts : ∀ e ∈ shelf.parts, e.schema.Native :=
    List.forall_mem_cons.mpr ⟨native_label, List.forall_mem_singleton.mpr native_label⟩
  have hd : (⟨label, some labelled, [.key "shelf", .index 1]⟩ : Call) ∈ shelf.parts :=
    List.mem_cons_of_mem _ List.mem_cons_self
  obtain ⟨_, hw⟩ := hthrough shelf _ trivial trivial hparts hd rfl rfl
  exact ⟨native_label, hr, _, rfl, hw _ rfl⟩

end Schemata
