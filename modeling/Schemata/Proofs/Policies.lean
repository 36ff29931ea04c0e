import Schemata.Proofs.FixedPoint
import Schemata.Proofs.Fields

/-! # The three policies for undeclared entries

The policies are compared on one object. They run alike over the fields, and differ only in what
they make of the entries that the shape does not declare: nothing, an issue for each, or entries of
the output. As the names of shape and input are distinct, those entries meet no field's output.
-/
namespace Schemata

/-- What an accepted object is made of: `declared` holds what the fields gave, each under its name
and in the order of the shape, and `unknown` can be written after it without meeting any of it. -/
structure OutputParts (shape : List (String × Schema)) (entries : List (String × Value)) (p : Path)
    (o : String × Schema → Option Value) (declared : Entries Value)
    (unknown : List (String × Value)) : Prop where
  fields : ∀ f ∈ shape, (f.2.validate (entries.lookup f.1) (p.key f.1)).outcome = .ok (.ok (o f))
  names : declared.names = (shape.filter fun f => (o f).isSome).map Prod.fst
  in_order : declared.names.Sublist (shape.map Prod.fst)
  appended : declared.insertAll unknown = declared ++ unknown
  distinct : Entries.Distinct (declared ++ unknown)
  lookup : ∀ f ∈ shape, declared.lookup f.1 = o f ∧ (declared ++ unknown).lookup f.1 = o f

/-- What the verdicts of the three policies on an object have to do with each other, where `unknown`
is what the shape does not declare. -/
structure PolicyVerdicts (shape : List (String × Schema)) (entries : List (String × Value))
    (p : Path) (unknown : List (String × Value)) (strip strict passthrough : Verdict) : Prop where
  passthrough_issues : passthrough.issues = strip.issues
  passthrough_accepts : (∃ out, passthrough = .ok out) ↔ ∃ out, strip = .ok out
  strict_issues : ∃ refused, strict.issues = strip.issues ++ refused ∧
    List.Forall₂ (fun e i => i.code = .unrecognizedKeys ∧ i.path = p ∧ i.received = some e.1)
      unknown refused
  strict_ok_iff : ∀ out, strict = .ok out ↔ strip = .ok out ∧ unknown = []
  output : ∀ out, strip = .ok out → ∃ o declared, OutputParts shape entries p o declared unknown ∧
    out = some (.object declared) ∧ passthrough = .ok (some (.object (declared ++ unknown)))

section Object
variable {shape : List (String × Schema)} {entries : List (String × Value)} {p : Path}

theorem names_produced (shape : List (String × Schema)) (o : String × Schema → Option Value) :
    Entries.names (produced shape o) = (shape.filter fun f => (o f).isSome).map Prod.fst := by
  induction shape with
  | nil => rfl
  | cons f shape ih =>
    cases h : o f with
    | none => simpa [produced, h] using ih
    | some v => simpa [produced, h] using ih

/-- Writing the undeclared entries after what the fields gave, one by one, meets none of it. -/
theorem insertAll_produced (hs : Entries.Distinct shape) (he : Entries.Distinct entries)
    (o : String × Schema → Option Value) :
    Entries.Distinct (produced shape o ++ Schema.undeclared (shape.map Prod.fst) entries) ∧
      Entries.insertAll (produced shape o) (Schema.undeclared (shape.map Prod.fst) entries) =
        produced shape o ++ Schema.undeclared (shape.map Prod.fst) entries := by
  have hd := distinct_output hs he o .passthrough
  exact ⟨hd, Entries.insertAll_of_distinct hd⟩

theorem forall₂_unrecognized (p : Path) (unknown : List (String × Value)) :
    List.Forall₂ (fun e i => i.code = .unrecognizedKeys ∧ i.path = p ∧ i.received = some e.1)
      unknown (UnknownKeys.strict.reported p unknown) := by
  rw [UnknownKeys.reported, List.forall₂_map_right_iff, List.forall₂_same]
  exact fun e _ => ⟨rfl, rfl, rfl⟩

theorem outputParts_of_fields (hs : Entries.Distinct shape) (he : Entries.Distinct entries)
    {g : String × Schema → Verdict}
    (hg : ∀ f ∈ shape, (f.2.validate (entries.lookup f.1) (p.key f.1)).outcome = .ok (g f))
    (hnil : shape.flatMap (fun f => (g f).issues) = []) :
    OutputParts shape entries p (fun f => (g f).value?) (produced shape fun f => (g f).value?)
      (Schema.undeclared (shape.map Prod.fst) entries) := by
  obtain ⟨hdistinct, hinsert⟩ := insertAll_produced hs he fun f => (g f).value?
  constructor
  case fields =>
    intro f hf
    have hok : g f = .ok (g f).value? :=
      Verdict.eq_ok_of_issues_eq_nil (List.flatMap_eq_nil_iff.mp hnil f hf)
    rw [hg f hf, ← hok]
  case names => exact names_produced shape _
  case in_order => exact names_produced_sublist shape _
  case appended => exact hinsert
  case distinct => exact hdistinct
  case lookup =>
    intro f hf
    exact ⟨lookup_produced hs hf, lookup_output hs .passthrough hf⟩

theorem policyVerdicts_of_fields (hs : Entries.Distinct shape) (he : Entries.Distinct entries)
    {g : String × Schema → Verdict} {verdict : UnknownKeys → Verdict}
    (hg : ∀ f ∈ shape, (f.2.validate (entries.lookup f.1) (p.key f.1)).outcome = .ok (g f))
    (hv : ∀ u, verdict u = .conclude
      (.object (produced shape (fun f => (g f).value?) ++
        u.kept (Schema.undeclared (shape.map Prod.fst) entries)))
      (shape.flatMap (fun f => (g f).issues) ++
        u.reported p (Schema.undeclared (shape.map Prod.fst) entries))) :
    PolicyVerdicts shape entries p (Schema.undeclared (shape.map Prod.fst) entries)
      (verdict .strip) (verdict .strict) (verdict .passthrough) := by
  have hissues : (verdict .strip).issues = shape.flatMap fun f => (g f).issues := by
    rw [hv, Verdict.issues_conclude]
    exact List.append_nil _
  have hpass : (verdict .passthrough).issues = (verdict .strip).issues := by
    rw [hissues, hv, Verdict.issues_conclude]
    exact List.append_nil _
  constructor
  case passthrough_issues => exact hpass
  case passthrough_accepts =>
    rw [← Verdict.issues_eq_nil_iff, ← Verdict.issues_eq_nil_iff, hpass]
  case strict_issues =>
    refine ⟨_, ?_, forall₂_unrecognized p _⟩
    rw [hissues, hv, Verdict.issues_conclude]
  case strict_ok_iff =>
    -- Without undeclared entries strict has nothing to report, and strip nothing to drop.
    intro out
    simp only [hv, Verdict.conclude_eq_ok_iff, UnknownKeys.kept, UnknownKeys.reported,
      List.append_nil, List.append_eq_nil_iff, List.map_eq_nil_iff]
    tauto
  case output =>
    intro out hout
    have hnil : shape.flatMap (fun f => (g f).issues) = [] := by
      rw [← hissues]
      exact Verdict.issues_eq_nil_iff.mpr ⟨out, hout⟩
    refine ⟨_, _, outputParts_of_fields hs he hg hnil, ?_, ?_⟩
    · rw [hv, Verdict.conclude_eq_ok_iff] at hout
      simp [hout.2, UnknownKeys.kept]
    · rw [hv, Verdict.conclude_eq_ok_iff]
      exact ⟨by simp [UnknownKeys.reported, hnil], rfl⟩

/-- The three policies on one object log the same. Either a field faults, and they fault with it, or
they come to verdicts that differ only in the undeclared entries. -/
theorem policies_differ_in_undeclared (hs : Entries.Distinct shape) (he : Entries.Distinct entries)
    (message : Option String) (p : Path) :
    ∃ log,
      (∃ e, (∃ f ∈ shape, (f.2.validate (entries.lookup f.1) (p.key f.1)).outcome = .error e) ∧
        ∀ u, (Schema.object shape u message).validate (some (.object entries)) p =
          ⟨log, .error e⟩) ∨
      ∃ verdict : UnknownKeys → Verdict,
        (∀ u, (Schema.object shape u message).validate (some (.object entries)) p =
          ⟨log, .ok (verdict u)⟩) ∧
        PolicyVerdicts shape entries p (entries.filter fun e => e.1 ∉ shape.map Prod.fst)
          (verdict .strip) (verdict .strict) (verdict .passthrough) := by
  have hunknown : (entries.filter fun e => e.1 ∉ shape.map Prod.fst) =
      Schema.undeclared (shape.map Prod.fst) entries :=
    List.filter_congr fun e _ => by simp
  rw [hunknown]
  refine ⟨(Schema.validateFields shape entries p).log, ?_⟩
  cases hf : (Schema.validateFields shape entries p).outcome with
  | error e =>
    exact .inl ⟨e, Schema.exists_field_of_fault hf, fun u =>
      Schema.validate_object_of_fault hf u message⟩
  | ok fields =>
    obtain ⟨g, hg, rfl⟩ := Call.validateFields_ok_iff.mp hf
    exact .inr ⟨_, fun u => Schema.validate_object_of_fields rfl hf u message,
      policyVerdicts_of_fields hs he hg fun u => rfl⟩

end Object

def form : List (String × Schema) :=
  [("remark", .optional (.string .none)), ("count", .withDefault (.number .none) (.int 1))]

def filledForm : List (String × Value) :=
  [("token", .null), ("remark", .string "late"), ("page", .int 2)]

theorem distinct_form : Entries.Distinct form ∧ Entries.Distinct filledForm := by
  simp [form, filledForm, Entries.Distinct]

theorem policies_differ_in_undeclared_form :
    Entries.Distinct form ∧ Entries.Distinct filledForm ∧
      ∃ verdict : UnknownKeys → Verdict,
        (∀ u, ((Schema.object form u none).validate (some (.object filledForm)) []).outcome =
          .ok (verdict u)) ∧
        verdict .strip = .ok (some (.object [("remark", .string "late"), ("count", .int 1)])) ∧
        verdict .passthrough = .ok (some (.object [("remark", .string "late"), ("count", .int 1),
          ("token", .null), ("page", .int 2)])) ∧
        (verdict .strict).issues.map Issue.received = [some "token", some "page"] ∧
        PolicyVerdicts form filledForm [] [("token", .null), ("page", .int 2)] (verdict .strip)
          (verdict .strict) (verdict .passthrough) := by
  obtain ⟨hs, he⟩ := distinct_form
  have hstrip : ((Schema.object form .strip none).validate (some (.object filledForm)) []).outcome =
    .ok (.ok (some (.object [("remark", .string "late"), ("count", .int 1)]))) := rfl
  have hstrict : ((Schema.object form .strict none).validate (some (.object filledForm))
    []).outcome.map (fun v => v.issues.map Issue.received) = .ok [some "token", some "page"] := rfl
  have hpass : ((Schema.object form .passthrough none).validate (some (.object filledForm))
    []).outcome = .ok (.ok (some (.object [("remark", .string "late"), ("count", .int 1),
      ("token", .null), ("page", .int 2)]))) := rfl
  obtain ⟨log, ⟨e, _, h⟩ | ⟨verdict, h, hv⟩⟩ := policies_differ_in_undeclared hs he none []
  · rw [h .strip] at hstrip
    cases hstrip
  · rw [h .strip] at hstrip
    rw [h .strict] at hstrict
    rw [h .passthrough] at hpass
    exact ⟨hs, he, verdict, fun u => congrArg Run.outcome (h u), Except.ok.inj hstrip,
      Except.ok.inj hpass, Except.ok.inj hstrict, hv⟩

end Schemata
