import Mathlib.Data.List.Basic
import Schemata.Proofs.Fields
import Schemata.Schema.Build

/-! # Fields that may be absent

Making all fields of an object schema optional takes out of its verdicts just what the absent ones
had to do with them: the issues below their names, and what they gave to the output. What is present
is asked of the same schemas, and an entry counts as declared as before. Doing so once more changes
nothing.
-/
namespace Schemata

/-- An optional schema asks what it wraps only about what is present. -/
def Verdict.whenPresent (x : Option Value) (v : Verdict) : Verdict :=
  match x with
  | none => .ok none
  | some _ => v

@[simp] theorem Verdict.whenPresent_none (v : Verdict) : whenPresent none v = .ok none := rfl

@[simp] theorem Verdict.whenPresent_some (w : Value) (v : Verdict) : whenPresent (some w) v = v :=
  rfl

namespace Schema
variable {shape : List (String × Schema)} {entries : List (String × Value)} {p : Path}

theorem outcome_optional {s : Schema} {x : Option Value} {v : Verdict}
    (h : (s.validate x p).outcome = .ok v) :
    ((optional s).validate x p).outcome = .ok (.whenPresent x v) := by
  cases x with
  | none => rfl
  | some w => exact h

theorem validate_optional_optional (s : Schema) (x : Option Value) (p : Path) :
    (optional (optional s)).validate x p = (optional s).validate x p := by
  cases x <;> rfl

theorem validateFields_optional {g : String × Schema → Verdict}
    (hg : ∀ f ∈ shape, (f.2.validate (entries.lookup f.1) (p.key f.1)).outcome = .ok (g f)) :
    (validateFields (Entries.mapValues .optional shape) entries p).outcome =
      .ok (shape.map fun f => (f.1, .whenPresent (entries.lookup f.1) (g f))) := by
  induction shape with
  | nil => rfl
  | cons f shape ih =>
    have hf := outcome_optional (hg f List.mem_cons_self)
    have hrest := ih fun f' hf' => hg f' (List.mem_cons_of_mem f hf')
    show (validateFields ((f.1, optional f.2) :: Entries.mapValues .optional shape)
      entries p).outcome = _
    rw [validateFields, Run.bind_of_ok hf, Run.bind_of_ok hrest]
    rfl

theorem validateFields_optional_optional (shape : List (String × Schema))
    (entries : List (String × Value)) (p : Path) :
    validateFields (Entries.mapValues .optional (Entries.mapValues .optional shape)) entries p =
      validateFields (Entries.mapValues .optional shape) entries p := by
  induction shape with
  | nil => rfl
  | cons f shape ih =>
    show validateFields ((f.1, optional (optional f.2)) ::
        Entries.mapValues .optional (Entries.mapValues .optional shape)) entries p =
      validateFields ((f.1, optional f.2) :: Entries.mapValues .optional shape) entries p
    rw [validateFields, validateFields, validate_optional_optional, ih]

/-! ## Issues below absent fields -/

/-- Whether an issue stands below the name of a field that the object does not have. -/
def belowAbsent (shape : List (String × Schema)) (entries : List (String × Value)) (p : Path)
    (i : Issue) : Bool :=
  shape.any fun f => !Entries.contains entries f.1 && (p.key f.1).isPrefixOf i.path

theorem belowAbsent_iff {i : Issue} : belowAbsent shape entries p i = true ↔
    ∃ f ∈ shape, entries.lookup f.1 = none ∧ p.key f.1 <+: i.path := by
  have hc : ∀ name, Entries.contains entries name = (entries.lookup name).isSome :=
    Entries.contains_eq_isSome entries
  simp [belowAbsent, hc, List.isPrefixOf_iff_prefix]

/-- Of a field's issues all or none are below an absent field, as the field is absent or not. -/
theorem filter_field_issues {f : String × Schema} {v : Verdict} (hs : f.2.Native) (hf : f ∈ shape)
    (hv : (f.2.validate (entries.lookup f.1) (p.key f.1)).outcome = .ok v) :
    v.issues.filter (fun i => !belowAbsent shape entries p i) =
      (Verdict.whenPresent (entries.lookup f.1) v).issues := by
  have hbelow : ∀ i ∈ v.issues, p.key f.1 <+: i.path := fun i hi => prefix_of_mem_field hs hv hi
  cases hl : entries.lookup f.1 with
  | none =>
    refine List.filter_eq_nil_iff.mpr fun i hi => ?_
    have hb : belowAbsent shape entries p i = true := belowAbsent_iff.mpr ⟨f, hf, hl, hbelow i hi⟩
    simp [hb]
  | some w =>
    refine List.filter_eq_self.mpr fun i hi => ?_
    rw [Bool.not_eq_true', ← Bool.not_eq_true, belowAbsent_iff]
    rintro ⟨f', _, hl', hb⟩
    -- The absent field would have this one's name, which the object has.
    have hn : f'.1 = f.1 := Path.eq_of_key_prefix hb (hbelow i hi)
    rw [hn, hl] at hl'
    cases hl'

theorem filter_reported (u : UnknownKeys) (unknown : List (String × Value)) :
    (u.reported p unknown).filter (fun i => !belowAbsent shape entries p i) =
      u.reported p unknown := by
  refine List.filter_eq_self.mpr fun i hi => ?_
  rw [Bool.not_eq_true', ← Bool.not_eq_true, belowAbsent_iff]
  rintro ⟨f, _, _, hb⟩
  rw [UnknownKeys.path_of_mem_reported hi] at hb
  exact p.not_key_prefix_self f.1 hb

theorem filter_object_issues (hs : ∀ f ∈ shape, f.2.Native) {g : String × Schema → Verdict}
    (hg : ∀ f ∈ shape, (f.2.validate (entries.lookup f.1) (p.key f.1)).outcome = .ok (g f))
    (u : UnknownKeys) (unknown : List (String × Value)) :
    (shape.flatMap (fun f => (g f).issues) ++ u.reported p unknown).filter
        (fun i => !belowAbsent shape entries p i) =
      shape.flatMap (fun f => (Verdict.whenPresent (entries.lookup f.1) (g f)).issues) ++
        u.reported p unknown := by
  rw [List.filter_append, filter_reported, List.filter_flatMap]
  congr 1
  exact List.flatMap_congr fun f hf => filter_field_issues (hs f hf) hf (hg f hf)

/-! ## Output of present fields -/

theorem filter_produced (shape : List (String × Schema)) (entries : List (String × Value))
    (g : String × Schema → Verdict) :
    (produced shape fun f => (g f).value?).filter (fun e => Entries.contains entries e.1) =
      produced shape fun f => (Verdict.whenPresent (entries.lookup f.1) (g f)).value? := by
  rw [produced, List.filter_filterMap]
  refine List.filterMap_congr fun f _ => ?_
  have hc : Entries.contains entries f.1 = (entries.lookup f.1).isSome :=
    Entries.contains_eq_isSome entries f.1
  cases hl : entries.lookup f.1 with
  | none =>
    rw [hl] at hc
    cases (g f).value? <;> simp [hl, Verdict.value?, Option.filter, hc]
  | some w =>
    rw [hl] at hc
    cases hv : (g f).value? <;> simp [hl, hv, Option.filter, hc]

theorem filter_kept (u : UnknownKeys) (names : List String) :
    (u.kept (undeclared names entries)).filter (fun e => Entries.contains entries e.1) =
      u.kept (undeclared names entries) := by
  refine List.filter_eq_self.mpr fun e he => ?_
  have hm := (UnknownKeys.mem_kept_undeclared he).1
  rw [Entries.contains, List.contains_iff_mem]
  exact List.mem_map_of_mem hm

/-! ## Whole objects -/

theorem validate_object_congr {others : List (String × Schema)}
    (hn : others.map Prod.fst = shape.map Prod.fst)
    (hf : ∀ es, validateFields others es p = validateFields shape es p) (u : UnknownKeys)
    (message : Option String) (x : Option Value) :
    validate (.object others u message) x p = validate (.object shape u message) x p := by
  match x with
  | some (.object es) => rw [validate, validate, hf, hn]
  | none | some .null | some (.bool _) | some (.number _) | some (.string _)
  | some (.array _) => rfl

theorem validate_object_of_mismatch {x : Option Value} (hx : ∀ es, x ≠ some (.object es))
    (shape : List (String × Schema)) (u : UnknownKeys) (message : Option String) (p : Path) :
    validate (.object shape u message) x p =
      pure (.error (.single (invalidType "object" message x p))) := by
  match x with
  | some (.object es) => exact absurd rfl (hx es)
  | none | some .null | some (.bool _) | some (.number _) | some (.string _)
  | some (.array _) => rfl

end Schema

namespace ObjectSchema
variable {o : ObjectSchema} {entries : List (String × Value)} {p : Path}

/-- How the verdict of an object schema becomes that of the same schema with optional fields. -/
structure ForgetsAbsent (o : ObjectSchema) (entries : List (String × Value)) (p : Path)
    (v w : Verdict) : Prop where
  issues : w.issues = v.issues.filter fun i =>
    !o.shape.any fun f => !Entries.contains entries f.1 && (p.key f.1).isPrefixOf i.path
  output : ∀ out, v = .ok out → ∃ output : Entries Value, out = some (.object output) ∧
    w = .ok (some (.object (output.filter fun e => Entries.contains entries e.1)))

theorem exists_forgetsAbsent (ho : ∀ f ∈ o.shape, f.2.Native) {v : Verdict}
    (hv : (o.toSchema.validate (some (.object entries)) p).outcome = .ok v) :
    ∃ w, (o.partialShape.toSchema.validate (some (.object entries)) p).outcome = .ok w ∧
      o.ForgetsAbsent entries p v w := by
  obtain ⟨g, hg⟩ := Schema.exists_fields hv
  have hfields := Call.validateFields_ok_iff.mpr ⟨g, hg, rfl⟩
  have hn : (Entries.mapValues Schema.optional o.shape).map Prod.fst = o.shape.map Prod.fst :=
    Entries.names_mapValues Schema.optional o.shape
  have hwhole := Schema.validate_object_of_fields rfl hfields o.unknownKeys o.message
  have hw := Schema.validate_object_of_fields hn (Schema.validateFields_optional hg) o.unknownKeys
    o.message
  obtain rfl := Except.ok.inj ((congrArg Run.outcome hwhole).symm.trans hv)
  refine ⟨_, congrArg Run.outcome hw, ?_⟩
  have hissues := Schema.filter_object_issues ho hg o.unknownKeys
    (Schema.undeclared (o.shape.map Prod.fst) entries)
  constructor
  case issues =>
    rw [Verdict.issues_conclude, Verdict.issues_conclude]
    exact hissues.symm
  case output =>
    intro out hout
    obtain ⟨hnone, rfl⟩ := Verdict.conclude_eq_ok_iff.mp hout
    refine ⟨_, rfl, Verdict.conclude_eq_ok_iff.mpr ⟨?_, ?_⟩⟩
    · rw [← hissues, hnone, List.filter_nil]
    · rw [List.filter_append, Schema.filter_produced, Schema.filter_kept]

theorem partialShape_partialShape_validate (o : ObjectSchema) (x : Option Value) (p : Path) :
    o.partialShape.partialShape.toSchema.validate x p = o.partialShape.toSchema.validate x p :=
  Schema.validate_object_congr
    (Entries.names_mapValues Schema.optional (Entries.mapValues Schema.optional o.shape))
    (fun es => Schema.validateFields_optional_optional o.shape es p) o.unknownKeys o.message x

end ObjectSchema

/-- An object schema and the same with optional fields, whose fields are the library's own. An
input that is no object is refused by both with one and the same issue. On an object, where the
first comes to a verdict, which it does unless a callback is loud, the second has just the issues
of the first that are not below the name of an absent field; so it accepts what the first accepts,
and its output is then what the first gave under the names that the object has. Making the fields
optional twice is the same as once. The schemas of the fields, the policy and the message are those
of the first. -/
theorem partial_forgets_absent {o : ObjectSchema} (ho : ∀ f ∈ o.shape, f.2.Native) :
    (∀ x p, (∀ es, x ≠ some (.object es)) → ∃ i, i.code = .invalidType ∧ i.path = p ∧
      o.toSchema.validate x p = pure (.error (.single i)) ∧
      o.partialShape.toSchema.validate x p = pure (.error (.single i))) ∧
    ((∀ f ∈ o.shape, f.2.Quiet) → ∀ entries p, ∃ v,
      (o.toSchema.validate (some (.object entries)) p).outcome = .ok v) ∧
    (∀ entries p v, (o.toSchema.validate (some (.object entries)) p).outcome = .ok v →
      ∃ w, (o.partialShape.toSchema.validate (some (.object entries)) p).outcome = .ok w ∧
        o.ForgetsAbsent entries p v w) ∧
    (∀ x p, o.partialShape.partialShape.toSchema.validate x p =
      o.partialShape.toSchema.validate x p) ∧
    o.partialShape.shape = o.shape.map (fun f => (f.1, .optional f.2)) ∧
    o.partialShape.unknownKeys = o.unknownKeys ∧ o.partialShape.message = o.message := by
  refine ⟨?_, fun hq => Schema.exists_verdict_of_fields ho hq o.unknownKeys o.message,
    fun entries p v hv => ObjectSchema.exists_forgetsAbsent ho hv,
    o.partialShape_partialShape_validate, rfl, rfl, rfl⟩
  intro x p hx
  exact ⟨_, rfl, rfl, Schema.validate_object_of_mismatch hx _ _ _ p,
    Schema.validate_object_of_mismatch hx _ _ _ p⟩

def post : ObjectSchema :=
  ((ObjectSchema.empty.field "title" .anyString).field "draft"
    (.withDefault .anyBoolean (.bool true))).policy .passthrough

theorem native_post : ∀ f ∈ post.shape, f.2.Native := by
  have htitle : Schema.Native .anyString := .leaf rfl rfl
  have hdraft : Schema.Native (.withDefault .anyBoolean (.bool true)) :=
    .wrap rfl rfl (.leaf rfl rfl)
  exact List.forall_mem_cons.mpr ⟨htitle, List.forall_mem_singleton.mpr hdraft⟩

theorem partial_forgets_absent_post :
    (∀ f ∈ post.shape, f.2.Native) ∧
      (post.toSchema.validate (some (.object [("tag", .int 1), ("title", .string "a")]))
        []).outcome = .ok (.ok (some (.object
          [("title", .string "a"), ("draft", .bool true), ("tag", .int 1)]))) ∧
      (post.partialShape.toSchema.validate (some (.object [("tag", .int 1), ("title", .string "a")]))
        []).outcome = .ok (.ok (some (.object [("title", .string "a"), ("tag", .int 1)]))) := by
  have h : (post.toSchema.validate (some (.object [("tag", .int 1), ("title", .string "a")]))
    []).outcome = .ok (.ok (some (.object
      [("title", .string "a"), ("draft", .bool true), ("tag", .int 1)]))) := rfl
  obtain ⟨_, _, hobject, _⟩ := partial_forgets_absent native_post
  obtain ⟨w, hw, hforgets⟩ := hobject _ _ _ h
  obtain ⟨output, ho, rfl⟩ := hforgets.output _ rfl
  cases ho
  exact ⟨native_post, h, hw⟩

/-- Without a title, only the other field is refused. -/
example :
    (post.partialShape.toSchema.validate (some (.object [("draft", .null)])) []).outcome.map
      (fun v => v.issues.map Issue.path) = .ok [[.key "draft"]] := rfl

end Schemata
