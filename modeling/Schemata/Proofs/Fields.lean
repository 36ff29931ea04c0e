import Schemata.Proofs.Location
import Schemata.Proofs.Output

/-! # Objects field by field

When the fields of a shape have verdicts, the verdict on an object is made of these: the output of
what they give and of the entries that the policy keeps, and the issues of what they report and of
the entries that the policy refuses. What a field of the library's own reports stands below its
name.
-/
namespace Schemata

/-- The issues of a policy with the entries that are not declared. -/
def UnknownKeys.reported (u : UnknownKeys) (p : Path) (unknown : List (String × Value)) :
    List Issue :=
  match u with
  | .strict => unknown.map fun e => Schema.unrecognized p e.1
  | .strip | .passthrough => []

theorem UnknownKeys.path_of_mem_reported {u : UnknownKeys} {p : Path}
    {unknown : List (String × Value)} {i : Issue} (h : i ∈ u.reported p unknown) : i.path = p := by
  cases u with
  | strip | passthrough => cases h
  | strict =>
    obtain ⟨e, _, rfl⟩ := List.mem_map.mp h
    rfl

namespace Schema
variable {shape : List (String × Schema)} {entries : List (String × Value)} {p : Path}

theorem objectVerdict_fields (g : String × Schema → Verdict) (u : UnknownKeys)
    (unknown : List (String × Value)) :
    objectVerdict u unknown p (shape.map fun f => (f.1, g f)) =
      .conclude (.object (produced shape (fun f => (g f).value?) ++ u.kept unknown))
        (shape.flatMap (fun f => (g f).issues) ++ u.reported p unknown) := by
  have ho : (shape.map fun f => (f.1, g f)).filterMap
      (fun f => f.2.value?.map fun v => (f.1, v)) = produced shape fun f => (g f).value? := by
    rw [List.filterMap_map]
    rfl
  have hi : (shape.map fun f => (f.1, g f)).flatMap (fun f => f.2.issues) =
      shape.flatMap fun f => (g f).issues := by
    rw [List.flatMap_map]
  cases u with
  | strip | passthrough | strict =>
    simp only [objectVerdict, ho, hi, UnknownKeys.kept, UnknownKeys.reported, List.append_nil]

/-- An object is validated by validating its fields and then closing over their verdicts. These may
be known by the fields of another shape with the same names. -/
theorem validate_object_of_fields {others : List (String × Schema)}
    {g : String × Schema → Verdict} (hn : others.map Prod.fst = shape.map Prod.fst)
    (hg : (validateFields others entries p).outcome = .ok (shape.map fun f => (f.1, g f)))
    (u : UnknownKeys) (message : Option String) :
    validate (.object others u message) (some (.object entries)) p =
      ⟨(validateFields others entries p).log,
        .ok (.conclude
          (.object (produced shape (fun f => (g f).value?) ++
            u.kept (undeclared (shape.map Prod.fst) entries)))
          (shape.flatMap (fun f => (g f).issues) ++
            u.reported p (undeclared (shape.map Prod.fst) entries)))⟩ := by
  rw [validate, Run.bind_of_ok hg, hn, objectVerdict_fields]
  simp

theorem validate_strip_of_fields {g : String × Schema → Verdict}
    (hg : ∀ f ∈ shape, (f.2.validate (entries.lookup f.1) (p.key f.1)).outcome = .ok (g f))
    (message : Option String) :
    (validate (.object shape .strip message) (some (.object entries)) p).outcome =
      .ok (.conclude (.object (produced shape fun f => (g f).value?))
        (shape.flatMap fun f => (g f).issues)) := by
  have hfields := Call.validateFields_ok_iff.mpr ⟨g, hg, rfl⟩
  rw [validate_object_of_fields rfl hfields .strip message]
  simp only [UnknownKeys.kept, UnknownKeys.reported, List.append_nil]

theorem validate_object_of_fault {e : Payload}
    (he : (validateFields shape entries p).outcome = .error e) (u : UnknownKeys)
    (message : Option String) :
    validate (.object shape u message) (some (.object entries)) p =
      ⟨(validateFields shape entries p).log, .error e⟩ := by
  rw [validate, Run.bind_of_error he]

theorem exists_field_of_fault {e : Payload}
    (he : (validateFields shape entries p).outcome = .error e) :
    ∃ f ∈ shape, (f.2.validate (entries.lookup f.1) (p.key f.1)).outcome = .error e := by
  rw [Call.validateFields_eq] at he
  rcases Run.outcome_bind_eq_error he with hm | ⟨vs, _, hv⟩
  · obtain ⟨before, d, after, hl, _, hd⟩ := Run.exists_of_mapM_error hm
    have hmem : d ∈ shape.map fun f => Call.mk f.2 (entries.lookup f.1) (p.key f.1) := by
      rw [hl]
      exact List.mem_append_right _ List.mem_cons_self
    obtain ⟨f, hf, rfl⟩ := List.mem_map.mp hmem
    exact ⟨f, hf, hd⟩
  · cases hv

theorem exists_verdict_iff_fields {u : UnknownKeys} {message : Option String} :
    (∃ v, (validate (.object shape u message) (some (.object entries)) p).outcome = .ok v) ↔
      ∀ f ∈ shape, ∃ v, (f.2.validate (entries.lookup f.1) (p.key f.1)).outcome = .ok v := by
  constructor
  · rintro ⟨v, hv⟩ f hf
    obtain ⟨fields, hfields, _⟩ := Run.outcome_bind_eq_ok hv
    obtain ⟨g, hg, _⟩ := Call.validateFields_ok_iff.mp hfields
    exact ⟨g f, hg f hf⟩
  · intro h
    obtain ⟨g, hg⟩ := Run.exists_results h
    have hfields := Call.validateFields_ok_iff.mpr ⟨g, hg, rfl⟩
    exact ⟨_, congrArg Run.outcome (validate_object_of_fields rfl hfields u message)⟩

theorem strip_ok_iff_fields {message : Option String} :
    (∃ out, (validate (.object shape .strip message) (some (.object entries)) p).outcome =
        .ok (.ok out)) ↔
      ∀ f ∈ shape, ∃ out, (f.2.validate (entries.lookup f.1) (p.key f.1)).outcome =
        .ok (.ok out) := by
  constructor
  · rintro ⟨out, h⟩ f hf
    obtain ⟨o, ho, _⟩ := Call.object_ok_iff.mp h
    exact ⟨o f, ho f hf⟩
  · intro h
    obtain ⟨g, hg⟩ := Run.exists_results fun f hf => ⟨_, (h f hf).choose_spec⟩
    refine ⟨_, Call.object_ok_iff.mpr ⟨fun f => (g f).value?, fun f hf => ?_, nofun, rfl⟩⟩
    obtain ⟨out, ho⟩ := h f hf
    have hgf : (g f).value? = out := by
      rw [Except.ok.inj ((hg f hf).symm.trans ho)]
      rfl
    rw [ho, ← hgf]

theorem exists_verdict_of_fields (hs : ∀ f ∈ shape, f.2.Native) (hq : ∀ f ∈ shape, f.2.Quiet)
    (u : UnknownKeys) (message : Option String) (entries : List (String × Value)) (p : Path) :
    ∃ v, (validate (.object shape u message) (some (.object entries)) p).outcome = .ok v :=
  exists_verdict_iff_fields.mpr fun f hf =>
    exists_verdict (hs f hf) (hq f hf) (entries.lookup f.1) (p.key f.1)

theorem exists_fields {u : UnknownKeys} {message : Option String} {v : Verdict}
    (h : (validate (.object shape u message) (some (.object entries)) p).outcome = .ok v) :
    ∃ g : String × Schema → Verdict, ∀ f ∈ shape,
      (f.2.validate (entries.lookup f.1) (p.key f.1)).outcome = .ok (g f) :=
  Run.exists_results (exists_verdict_iff_fields.mp ⟨v, h⟩)

theorem prefix_of_mem_field {f : String × Schema} {v : Verdict} {i : Issue} (hs : f.2.Native)
    (hv : (f.2.validate (entries.lookup f.1) (p.key f.1)).outcome = .ok v) (hi : i ∈ v.issues) :
    p.key f.1 <+: i.path :=
  Call.prefix_of_mem_issues (c := ⟨f.2, entries.lookup f.1, p.key f.1⟩) hs hv hi

end Schema

theorem Path.eq_of_key_prefix {p q : Path} {m n : String} (hm : p.key m <+: q)
    (hn : p.key n <+: q) : m = n := by
  have hl : (p.key m).length = (p.key n).length := by simp [Path.key]
  have hp := List.prefix_of_prefix_length_le hm hn (Nat.le_of_eq hl)
  have he : p.key m = p.key n := hp.eq_of_length hl
  simpa [Path.key] using he

theorem Path.not_key_prefix_self (p : Path) (name : String) : ¬ p.key name <+: p := by
  intro h
  have hl := h.length_le
  simp only [Path.key, List.length_append, List.length_singleton] at hl
  omega

end Schemata
