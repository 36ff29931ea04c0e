import Mathlib.Data.List.Basic
import Mathlib.Data.List.Perm.Basic
import Schemata.Proofs.Fields
import Schemata.Schema.Build

/-! # Object schemas split by names

Picking some names and leaving them out are different computations on a shape, a test of each field
and an erasure of each name, that come to complementary parts of it. Under the stripping policy a
validation splits in the same way: each issue stands below the name of one field, and each entry of
the output is under it, so both go to the part that declares it.
-/
namespace Schemata

/-- Whether an issue goes through one of some keys. -/
def Issue.through (p : Path) (names : List String) (i : Issue) : Bool :=
  names.any fun name => (p.key name).isPrefixOf i.path

theorem Issue.through_eq_of_prefix {p : Path} {name : String} {i : Issue}
    (h : p.key name <+: i.path) (names : List String) :
    i.through p names = names.contains name := by
  rw [Bool.eq_iff_iff, Issue.through, List.any_eq_true, List.contains_iff_mem]
  constructor
  · rintro ⟨other, hm, ho⟩
    have heq := Path.eq_of_key_prefix (List.isPrefixOf_iff_prefix.mp ho) h
    exact heq ▸ hm
  · intro hm
    exact ⟨name, hm, List.isPrefixOf_iff_prefix.mpr h⟩

theorem forall_mem_iff_filter {α : Type} {q : α → Prop} {l : List α} (keep : α → Bool) :
    (∀ a ∈ l, q a) ↔ (∀ a ∈ l.filter keep, q a) ∧ ∀ a ∈ l.filter fun a => !keep a, q a := by
  rw [← List.forall_mem_append]
  have hperm := List.filter_append_perm keep l
  exact ⟨fun h a ha => h a (hperm.mem_iff.mp ha), fun h a ha => h a (hperm.mem_iff.mpr ha)⟩

/-- Choosing among what the members of a list contribute, when it depends on the members only, is
choosing among the members. -/
theorem filter_flatMap_of_members {α β : Type} {l : List α} {f : α → List β} {kept : α → Bool}
    {keep : β → Bool} (h : ∀ a ∈ l, ∀ b ∈ f a, keep b = kept a) :
    (l.flatMap f).filter keep = (l.filter kept).flatMap f := by
  induction l with
  | nil => rfl
  | cons a l ih =>
    have ha := h a List.mem_cons_self
    have hl := ih fun b hb => h b (List.mem_cons_of_mem a hb)
    rw [List.flatMap_cons, List.filter_append, hl, List.filter_cons]
    cases hk : kept a with
    | true =>
      have hall : (f a).filter keep = f a :=
        List.filter_eq_self.mpr fun b hb => (ha b hb).trans hk
      rw [hall]
      rfl
    | false =>
      have hnone : (f a).filter keep = [] :=
        List.filter_eq_nil_iff.mpr fun b hb => by simp [ha b hb, hk]
      rw [hnone]
      rfl

theorem filter_produced_names (keep : String → Bool) (shape : List (String × Schema))
    (o : String × Schema → Option Value) :
    (produced shape o).filter (fun e => keep e.1) =
      produced (shape.filter fun f => keep f.1) o := by
  rw [produced, produced, List.filter_filterMap, List.filterMap_filter]
  refine List.filterMap_congr fun f _ => ?_
  cases o f <;> cases hk : keep f.1 <;> simp [Option.filter, hk]

section Fields
variable {shape : List (String × Schema)} {entries : List (String × Value)} {p : Path}

theorem Schema.validate_strip_of_kept {g : String × Schema → Verdict}
    (hg : ∀ f ∈ shape, (f.2.validate (entries.lookup f.1) (p.key f.1)).outcome = .ok (g f))
    (keep : String → Bool) (keepIssue : Issue → Bool)
    (hk : ∀ f ∈ shape, ∀ i ∈ (g f).issues, keepIssue i = keep f.1) (message : Option String) :
    (validate (.object (shape.filter fun f => keep f.1) .strip message) (some (.object entries))
      p).outcome =
      .ok (.conclude
        (.object ((produced shape fun f => (g f).value?).filter fun e => keep e.1))
        ((shape.flatMap fun f => (g f).issues).filter keepIssue)) := by
  have hkept : ∀ f ∈ shape.filter (fun f => keep f.1),
      (f.2.validate (entries.lookup f.1) (p.key f.1)).outcome = .ok (g f) :=
    fun f hf => hg f (List.mem_of_mem_filter hf)
  rw [validate_strip_of_fields hkept, filter_produced_names, filter_flatMap_of_members hk]

end Fields

namespace ObjectSchema

/-- How the verdict of an object schema falls apart into those of the fields with some names and of
the other fields. -/
structure SplitBy (names : List String) (p : Path) (whole picked rest : Verdict) : Prop where
  picked_issues : picked.issues = whole.issues.filter fun i => i.through p names
  rest_issues : rest.issues = whole.issues.filter fun i => !i.through p names
  all : (picked.issues ++ rest.issues).Perm whole.issues
  apart : picked.issues.Disjoint rest.issues
  success : (∃ out, whole = .ok out) ↔ (∃ out, picked = .ok out) ∧ ∃ out, rest = .ok out
  output : ∀ out, whole = .ok out → ∃ output : Entries Value, out = some (.object output) ∧
    picked = .ok (some (.object (output.filter fun e => names.contains e.1))) ∧
    rest = .ok (some (.object (output.filter fun e => !names.contains e.1)))

theorem splitBy_conclude (names : List String) (p : Path) (output : Entries Value)
    (is : List Issue) :
    SplitBy names p (.conclude (.object output) is)
      (.conclude (.object (output.filter fun e => names.contains e.1))
        (is.filter fun i => i.through p names))
      (.conclude (.object (output.filter fun e => !names.contains e.1))
        (is.filter fun i => !i.through p names)) := by
  have hperm := List.filter_append_perm (fun i : Issue => i.through p names) is
  constructor
  case picked_issues => simp only [Verdict.issues_conclude]
  case rest_issues => simp only [Verdict.issues_conclude]
  case all =>
    simp only [Verdict.issues_conclude]
    exact hperm
  case apart =>
    simp only [Verdict.issues_conclude]
    intro i hpicked hrest
    have hp := (List.mem_filter.mp hpicked).2
    have hr := (List.mem_filter.mp hrest).2
    rw [hp] at hr
    cases hr
  case success =>
    -- Nothing is reported when neither part reports anything.
    simp only [← Verdict.issues_eq_nil_iff, Verdict.issues_conclude]
    rw [← List.append_eq_nil_iff]
    constructor
    · rintro rfl
      rfl
    · intro h
      rw [h] at hperm
      exact hperm.symm.eq_nil
  case output =>
    intro out hout
    obtain ⟨rfl, rfl⟩ := Verdict.conclude_eq_ok_iff.mp hout
    exact ⟨output, rfl, rfl, rfl⟩

end ObjectSchema

/-- A stripping object schema with fields of the library's own, some names, declared or not, and an
object. The whole comes to a verdict when the part with the names and the part without them both do,
as they do unless a callback is loud. The issues of the first part are those of the whole that go
through one of the names, and the issues of the second are the others, both in the order of the
whole, so each is reported by one part. The whole accepts when both parts do, and they give what it
gives under the names and under the others. -/
theorem pick_without_split {o : ObjectSchema} (hs : o.unknownKeys = .strip)
    (ho : ∀ f ∈ o.shape, f.2.Native) (names : List String) (entries : List (String × Value))
    (p : Path) :
    ((∀ f ∈ o.shape, f.2.Quiet) →
      ∃ whole, (o.toSchema.validate (some (.object entries)) p).outcome = .ok whole) ∧
    ((∃ whole, (o.toSchema.validate (some (.object entries)) p).outcome = .ok whole) ↔
      (∃ picked, ((o.pick names).toSchema.validate (some (.object entries)) p).outcome =
        .ok picked) ∧
      ∃ rest, ((o.without names).toSchema.validate (some (.object entries)) p).outcome =
        .ok rest) ∧
    ∀ whole picked rest,
      (o.toSchema.validate (some (.object entries)) p).outcome = .ok whole →
      ((o.pick names).toSchema.validate (some (.object entries)) p).outcome = .ok picked →
      ((o.without names).toSchema.validate (some (.object entries)) p).outcome = .ok rest →
      ObjectSchema.SplitBy names p whole picked rest := by
  obtain ⟨shape, unknownKeys, message⟩ := o
  obtain rfl : unknownKeys = .strip := hs
  refine ⟨fun hq => Schema.exists_verdict_of_fields ho hq .strip message entries p, ?_, ?_⟩
  · rw [ObjectSchema.toSchema, ObjectSchema.toSchema, ObjectSchema.toSchema,
      ObjectSchema.shape_without]
    refine Schema.exists_verdict_iff_fields.trans ?_
    refine (forall_mem_iff_filter fun f => names.contains f.1).trans (Iff.symm ?_)
    exact and_congr Schema.exists_verdict_iff_fields Schema.exists_verdict_iff_fields
  intro whole picked rest hwhole hpicked hrest
  obtain ⟨g, hg⟩ := Schema.exists_fields hwhole
  have hthrough : ∀ f ∈ shape, ∀ i ∈ (g f).issues, i.through p names = names.contains f.1 :=
    fun f hf i hi =>
      Issue.through_eq_of_prefix (Schema.prefix_of_mem_field (ho f hf) (hg f hf) hi) names
  have hothers : ∀ f ∈ shape, ∀ i ∈ (g f).issues, (!i.through p names) = !names.contains f.1 :=
    fun f hf i hi => congrArg Bool.not (hthrough f hf i hi)
  have hkept := Schema.validate_strip_of_kept hg (fun name => names.contains name)
    (fun i => i.through p names) hthrough message
  have hleft := Schema.validate_strip_of_kept hg (fun name => !names.contains name)
    (fun i => !i.through p names) hothers message
  rw [ObjectSchema.toSchema, ObjectSchema.shape_without] at hrest
  obtain rfl := Except.ok.inj ((Schema.validate_strip_of_fields hg message).symm.trans hwhole)
  obtain rfl := Except.ok.inj (hkept.symm.trans hpicked)
  obtain rfl := Except.ok.inj (hleft.symm.trans hrest)
  exact ObjectSchema.splitBy_conclude names p _ _

def ticket : ObjectSchema :=
  ((ObjectSchema.empty.field "title" .anyString).field "place"
    (.object [("row", .anyNumber), ("seat", .anyNumber)] .strict none)).field "remark"
      (.optional .anyString)

def badTicket : List (String × Value) :=
  [("remark", .null), ("place", .object [("seat", .string "a"), ("row", .int 1), ("gate", .int 2)])]

theorem native_ticket : ∀ f ∈ ticket.shape, f.2.Native := by
  have hstring : Schema.Native .anyString := .leaf rfl rfl
  have hnumber : Schema.Native .anyNumber := .leaf rfl rfl
  have hplace : Schema.Native (.object [("row", .anyNumber), ("seat", .anyNumber)] .strict none) :=
    .node rfl (List.forall_mem_cons.mpr ⟨hnumber, List.forall_mem_singleton.mpr hnumber⟩)
  have hremark : Schema.Native (.optional .anyString) := .wrap rfl rfl hstring
  exact List.forall_mem_cons.mpr
    ⟨hstring, List.forall_mem_cons.mpr ⟨hplace, List.forall_mem_singleton.mpr hremark⟩⟩

/-- One name is given twice and one is not declared. -/
theorem pick_without_split_ticket :
    ticket.unknownKeys = .strip ∧ (∀ f ∈ ticket.shape, f.2.Native) ∧
      ∃ whole picked rest,
        (ticket.toSchema.validate (some (.object badTicket)) []).outcome = .ok whole ∧
        ((ticket.pick ["place", "gate", "place"]).toSchema.validate (some (.object badTicket))
          []).outcome = .ok picked ∧
        ((ticket.without ["place", "gate", "place"]).toSchema.validate (some (.object badTicket))
          []).outcome = .ok rest ∧
        whole.issues.map Issue.path =
          [[.key "title"], [.key "place", .key "seat"], [.key "place"], [.key "remark"]] ∧
        picked.issues.map Issue.path = [[.key "place", .key "seat"], [.key "place"]] ∧
        rest.issues.map Issue.path = [[.key "title"], [.key "remark"]] ∧
        ObjectSchema.SplitBy ["place", "gate", "place"] [] whole picked rest := by
  obtain ⟨whole, hw⟩ : ∃ whole, (ticket.toSchema.validate (some (.object badTicket))
    []).outcome = .ok whole := ⟨_, rfl⟩
  obtain ⟨_, hparts, hsplit⟩ := pick_without_split rfl native_ticket ["place", "gate", "place"]
    badTicket []
  obtain ⟨⟨picked, hp⟩, ⟨rest, hr⟩⟩ := hparts.mp ⟨whole, hw⟩
  have hpaths : (ticket.toSchema.validate (some (.object badTicket)) []).outcome.map
      (fun v => v.issues.map Issue.path) =
    .ok [[.key "title"], [.key "place", .key "seat"], [.key "place"], [.key "remark"]] := rfl
  have hpicked : ((ticket.pick ["place", "gate", "place"]).toSchema.validate
      (some (.object badTicket)) []).outcome.map (fun v => v.issues.map Issue.path) =
    .ok [[.key "place", .key "seat"], [.key "place"]] := rfl
  have hrest : ((ticket.without ["place", "gate", "place"]).toSchema.validate
      (some (.object badTicket)) []).outcome.map (fun v => v.issues.map Issue.path) =
    .ok [[.key "title"], [.key "remark"]] := rfl
  rw [hw] at hpaths
  rw [hp] at hpicked
  rw [hr] at hrest
  exact ⟨rfl, native_ticket, whole, picked, rest, hw, hp, hr, Except.ok.inj hpaths,
    Except.ok.inj hpicked, Except.ok.inj hrest, hsplit whole picked rest hw hp hr⟩

end Schemata
