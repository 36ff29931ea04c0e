import Mathlib.Data.List.Nodup
import Mathlib.Data.List.Perm.Basic
import Schemata.Proofs.Fields
import Schemata.Proofs.Matching
import Schemata.Schema.Build

/-! # Extended object schemas

Extending a shape by another one leaves the fields that the other does not declare, and all of the
other's, in an order that neither of the two has. Under the stripping policy a validation visits the
fields of both parts and nothing else, so it comes to what they come to together.
-/
namespace Schemata

namespace Entries
variable {α : Type} {es fs : Entries α}

/-- Entries written over others are these, less those under the same names, and themselves. -/
theorem insertAll_perm (he : es.Distinct) (hf : fs.Distinct) :
    (es.insertAll fs).Perm (List.filter (fun e => !fs.names.contains e.1) es ++ fs) := by
  have hleft : (es.insertAll fs).Distinct := he.insertAll fs
  have hright : Distinct (List.filter (fun e => !fs.names.contains e.1) es ++ fs) := by
    refine (he.filter _).append hf fun name hm => ?_
    rw [names_filter (fun name => !fs.names.contains name)] at hm
    simpa using (List.mem_filter.mp hm).2
  refine (List.perm_ext_iff_of_nodup (hleft.of_map Prod.fst) (hright.of_map Prod.fst)).mpr ?_
  rintro ⟨name, a⟩
  have hl : (name, a) ∈ es.insertAll fs ↔ (fs.get? name).or (es.get? name) = some a := by
    rw [← hleft.lookup_eq_some_iff, ← get?_insertAll hf]
    rfl
  have hes : (name, a) ∈ es ↔ es.get? name = some a := he.lookup_eq_some_iff.symm
  have hfs : (name, a) ∈ fs ↔ fs.get? name = some a := hf.lookup_eq_some_iff.symm
  rw [hl, List.mem_append, List.mem_filter, hes, hfs, Option.or_eq_some_iff, get?_eq_none_iff]
  simp only [Bool.not_eq_true', List.contains_eq_mem, decide_eq_false_iff_not]
  tauto

end Entries

namespace ObjectSchema
variable {a b : ObjectSchema}

theorem shape_extend_perm (ha : a.shape.Distinct) (hb : b.shape.Distinct) :
    (a.extend b).shape.Perm ((a.without b.shape.names).shape ++ b.shape) := by
  rw [shape_without]
  exact Entries.insertAll_perm ha hb

theorem forall_fields_extend_iff (ha : a.shape.Distinct) (hb : b.shape.Distinct)
    {q : String × Schema → Prop} : (∀ f ∈ (a.extend b).shape, q f) ↔
      (∀ f ∈ (a.without b.shape.names).shape, q f) ∧ ∀ f ∈ b.shape, q f := by
  have hperm := shape_extend_perm ha hb
  rw [← List.forall_mem_append]
  exact ⟨fun h f hf => h f (hperm.mem_iff.mpr hf), fun h f hf => h f (hperm.mem_iff.mp hf)⟩

theorem shape_extend_of_apart (ha : a.shape.Distinct) (hb : b.shape.Distinct)
    (hd : ∀ name ∈ a.shape.names, name ∉ b.shape.names) :
    (a.extend b).shape = (a.without b.shape.names).shape ++ b.shape := by
  have hall : List.filter (fun e => !b.shape.names.contains e.1) a.shape = a.shape := by
    refine List.filter_eq_self.mpr fun e he => ?_
    simpa using hd e.1 (List.mem_map_of_mem he)
  rw [shape_without, hall]
  exact Entries.insertAll_of_distinct (ha.append hb hd)

/-- How the verdict on all fields is made of those on the fields of two parts. The output has the
entries of both, in the order of the first shape and then, for the names that this does not declare,
of the second. -/
structure Joined (a b : ObjectSchema) (whole rest added : Verdict) : Prop where
  issues : whole.issues.Perm (rest.issues ++ added.issues)
  issues_of_apart : (∀ name ∈ a.shape.names, name ∉ b.shape.names) →
    whole.issues = rest.issues ++ added.issues
  output : ∀ out, whole = .ok out → ∃ output left written : Entries Value,
    out = some (.object output) ∧ rest = .ok (some (.object left)) ∧
    added = .ok (some (.object written)) ∧ Entries.Distinct (left ++ written) ∧
    output.Perm (left ++ written) ∧
    output.names.Sublist
      (a.shape.names ++ b.shape.names.filter fun name => !a.shape.names.contains name)

variable {entries : List (String × Value)} {p : Path}

theorem joined_of_fields (ha : a.shape.Distinct) (hb : b.shape.Distinct)
    (g : String × Schema → Verdict) :
    Joined a b
      (.conclude (.object (produced (a.extend b).shape fun f => (g f).value?))
        ((a.extend b).shape.flatMap fun f => (g f).issues))
      (.conclude (.object (produced (a.without b.shape.names).shape fun f => (g f).value?))
        ((a.without b.shape.names).shape.flatMap fun f => (g f).issues))
      (.conclude (.object (produced b.shape fun f => (g f).value?))
        (b.shape.flatMap fun f => (g f).issues)) := by
  have hperm := shape_extend_perm ha hb
  have hissues := hperm.flatMap_right fun f => (g f).issues
  rw [List.flatMap_append] at hissues
  constructor
  case issues => simpa only [Verdict.issues_conclude] using hissues
  case issues_of_apart =>
    intro hd
    simp only [Verdict.issues_conclude, shape_extend_of_apart ha hb hd, List.flatMap_append]
  case output =>
    intro out hout
    obtain ⟨hnil, rfl⟩ := Verdict.conclude_eq_ok_iff.mp hout
    -- A permutation of no issues has none, so neither part reports anything.
    rw [hnil] at hissues
    obtain ⟨hrest, hadded⟩ := List.append_eq_nil_iff.mp hissues.symm.eq_nil
    have hentries := hperm.filterMap fun f => ((g f).value?).map fun v => (f.1, v)
    rw [List.filterMap_append] at hentries
    have hnames := names_produced_sublist (a.extend b).shape fun f => (g f).value?
    have hdistinct : Entries.Distinct (produced (a.extend b).shape fun f => (g f).value?) :=
      hnames.nodup (ha.insertAll b.shape)
    have horder : (a.extend b).shape.map Prod.fst =
        a.shape.names ++ b.shape.names.filter fun name => !a.shape.names.contains name :=
      Entries.names_insertAll hb a.shape
    rw [horder] at hnames
    exact ⟨_, _, _, rfl, Verdict.conclude_eq_ok_iff.mpr ⟨hrest, rfl⟩,
      Verdict.conclude_eq_ok_iff.mpr ⟨hadded, rfl⟩, hdistinct.perm hentries, hentries, hnames⟩

end ObjectSchema

/-- A stripping object schema extended by another one, on an object. It accepts when the fields
that the other does not declare are accepted and the other, made stripping, accepts, and it comes
to a verdict when both do, as it does for fields of the library's own unless a callback is loud.
Its issues are then those of the first part and those of the second in some order, and in this one
when no name is declared twice; its output has the entries of both, whose names differ. -/
theorem extend_validates_parts {a b : ObjectSchema} (ha : a.shape.Distinct) (hb : b.shape.Distinct)
    (hs : a.unknownKeys = .strip) (entries : List (String × Value)) (p : Path) :
    ((∃ out, ((a.extend b).toSchema.validate (some (.object entries)) p).outcome = .ok (.ok out)) ↔
      (∃ out, ((a.without b.shape.names).toSchema.validate (some (.object entries)) p).outcome =
        .ok (.ok out)) ∧
      ∃ out, ((b.policy .strip).toSchema.validate (some (.object entries)) p).outcome =
        .ok (.ok out)) ∧
    ((∃ v, ((a.extend b).toSchema.validate (some (.object entries)) p).outcome = .ok v) ↔
      (∃ v, ((a.without b.shape.names).toSchema.validate (some (.object entries)) p).outcome =
        .ok v) ∧
      ∃ v, ((b.policy .strip).toSchema.validate (some (.object entries)) p).outcome = .ok v) ∧
    ((∀ f ∈ a.shape ++ b.shape, f.2.Native ∧ f.2.Quiet) →
      ∃ v, ((a.extend b).toSchema.validate (some (.object entries)) p).outcome = .ok v) ∧
    ∀ whole rest added,
      ((a.extend b).toSchema.validate (some (.object entries)) p).outcome = .ok whole →
      ((a.without b.shape.names).toSchema.validate (some (.object entries)) p).outcome = .ok rest →
      ((b.policy .strip).toSchema.validate (some (.object entries)) p).outcome = .ok added →
      ObjectSchema.Joined a b whole rest added := by
  obtain ⟨shape, unknownKeys, message⟩ := a
  obtain rfl : unknownKeys = .strip := hs
  refine ⟨?_, ?_, ?_, ?_⟩
  · refine Schema.strip_ok_iff_fields.trans ?_
    refine (ObjectSchema.forall_fields_extend_iff ha hb).trans (Iff.symm ?_)
    exact and_congr Schema.strip_ok_iff_fields Schema.strip_ok_iff_fields
  · refine Schema.exists_verdict_iff_fields.trans ?_
    refine (ObjectSchema.forall_fields_extend_iff ha hb).trans (Iff.symm ?_)
    exact and_congr Schema.exists_verdict_iff_fields Schema.exists_verdict_iff_fields
  · intro hfields
    obtain ⟨hleft, hright⟩ := List.forall_mem_append.mp hfields
    have hall := (ObjectSchema.forall_fields_extend_iff ha hb).mpr ⟨fun f hf => by
      rw [ObjectSchema.shape_without] at hf
      exact hleft f (List.mem_of_mem_filter hf), hright⟩
    exact Schema.exists_verdict_of_fields (fun f hf => (hall f hf).1) (fun f hf => (hall f hf).2)
      .strip message entries p
  · intro whole rest added hwhole hrest hadded
    obtain ⟨g, hg⟩ := Schema.exists_fields hwhole
    obtain ⟨hleft, hwritten⟩ := (ObjectSchema.forall_fields_extend_iff ha hb).mp hg
    obtain rfl := Except.ok.inj ((Schema.validate_strip_of_fields hg message).symm.trans hwhole)
    obtain rfl := Except.ok.inj ((Schema.validate_strip_of_fields hleft message).symm.trans hrest)
    obtain rfl :=
      Except.ok.inj ((Schema.validate_strip_of_fields hwritten b.message).symm.trans hadded)
    exact ObjectSchema.joined_of_fields ha hb g

def shipped : ObjectSchema :=
  ((ObjectSchema.empty.field "number" .anyNumber).field "weight" .anyNumber).field "sender"
    .anyString

def customs : ObjectSchema :=
  ((ObjectSchema.empty.field "text" .anyString).field "weight"
    (.optional .anyString)).policy .strict

theorem distinct_shipped : shipped.shape.Distinct ∧ customs.shape.Distinct := by
  have hshipped : ObjectSchema.Built shipped :=
    ((ObjectSchema.Built.empty.field _ _).field _ _).field _ _
  have hcustoms : ObjectSchema.Built customs :=
    ((ObjectSchema.Built.empty.field _ _).field _ _).policy _
  exact ⟨hshipped.distinct, hcustoms.distinct⟩

theorem quiet_shipped : ∀ f ∈ shipped.shape ++ customs.shape, f.2.Native ∧ f.2.Quiet := by
  have hnumber : Schema.Native .anyNumber ∧ Schema.Quiet .anyNumber :=
    ⟨.leaf rfl rfl, .leaf (fun _ => rfl) rfl⟩
  have hstring : Schema.Native .anyString ∧ Schema.Quiet .anyString :=
    ⟨.leaf rfl rfl, .leaf (fun _ => rfl) rfl⟩
  have hoptional : Schema.Native (.optional .anyString) ∧ Schema.Quiet (.optional .anyString) :=
    ⟨.wrap rfl rfl hstring.1, .wrap (fun _ => rfl) rfl hstring.2⟩
  exact List.forall_mem_cons.mpr ⟨hnumber, List.forall_mem_cons.mpr ⟨hnumber,
    List.forall_mem_cons.mpr ⟨hstring, List.forall_mem_cons.mpr ⟨hstring,
      List.forall_mem_singleton.mpr hoptional⟩⟩⟩⟩

def badShipment : List (String × Value) := [("weight", .int 2), ("number", .null)]

/-- The weight is reported where the first shape declares it, but by the second part. -/
theorem extend_validates_parts_shipped :
    shipped.shape.Distinct ∧ customs.shape.Distinct ∧ shipped.unknownKeys = .strip ∧
      (∀ f ∈ shipped.shape ++ customs.shape, f.2.Native ∧ f.2.Quiet) ∧
      ∃ whole rest added,
        ((shipped.extend customs).toSchema.validate (some (.object badShipment)) []).outcome =
          .ok whole ∧
        ((shipped.without customs.shape.names).toSchema.validate (some (.object badShipment))
          []).outcome = .ok rest ∧
        ((customs.policy .strip).toSchema.validate (some (.object badShipment)) []).outcome =
          .ok added ∧
        whole.issues.map Issue.path =
          [[.key "number"], [.key "weight"], [.key "sender"], [.key "text"]] ∧
        rest.issues.map Issue.path = [[.key "number"], [.key "sender"]] ∧
        added.issues.map Issue.path = [[.key "text"], [.key "weight"]] ∧
        ObjectSchema.Joined shipped customs whole rest added := by
  obtain ⟨ha, hb⟩ := distinct_shipped
  obtain ⟨_, hverdicts, hquiet, hjoined⟩ := extend_validates_parts ha hb rfl badShipment []
  obtain ⟨whole, hw⟩ := hquiet quiet_shipped
  obtain ⟨⟨rest, hr⟩, ⟨added, hadd⟩⟩ := hverdicts.mp ⟨whole, hw⟩
  have hpaths : ((shipped.extend customs).toSchema.validate (some (.object badShipment))
      []).outcome.map (fun v => v.issues.map Issue.path) =
    .ok [[.key "number"], [.key "weight"], [.key "sender"], [.key "text"]] := rfl
  have hrest : ((shipped.without customs.shape.names).toSchema.validate
      (some (.object badShipment)) []).outcome.map (fun v => v.issues.map Issue.path) =
    .ok [[.key "number"], [.key "sender"]] := rfl
  have hadded : ((customs.policy .strip).toSchema.validate (some (.object badShipment))
      []).outcome.map (fun v => v.issues.map Issue.path) =
    .ok [[.key "text"], [.key "weight"]] := rfl
  rw [hw] at hpaths
  rw [hr] at hrest
  rw [hadd] at hadded
  exact ⟨ha, hb, rfl, quiet_shipped, whole, rest, added, hw, hr, hadd, Except.ok.inj hpaths,
    Except.ok.inj hrest, Except.ok.inj hadded, hjoined whole rest added hw hr hadd⟩

/-- A weight that is there keeps its place in the output, with the text of the second shape. -/
example : ((shipped.extend customs).toSchema.validate (some (.object [("text", .string "t"),
    ("sender", .string "s"), ("weight", .string "2"), ("number", .int 1)])) []).outcome =
  .ok (.ok (some (.object [("number", .int 1), ("weight", .string "2"), ("sender", .string "s"),
    ("text", .string "t")]))) := rfl

end Schemata
