import Schemata.Proofs.Output

/-! # Present inputs

An input that is present and accepted gives a value, so nothing stands in for a value that is
missing: an array has an output for each of its elements, an object for each declared field that it
has, and parsing never has to write null for an output that is none.
-/
namespace Schemata

namespace Call

theorem outputs_of_array_ok {element : Schema} (he : element.Native) {rules : ArrayRules}
    {items : List Value} {p : Path} {out : Option Value}
    (h : (run ⟨.array element rules, some (.array items), p⟩).outcome = .ok (.ok out)) :
    ∃ outs, out = some (.array outs) ∧ outs.length = items.length ∧
      ∀ i v, items[i]? = some v → ∃ y, outs[i]? = some y ∧
        (element.validate (some v) (p.index i)).outcome = .ok (.ok (some y)) := by
  obtain ⟨_, o, ho, rfl⟩ := array_ok_iff.mp h
  refine ⟨_, rfl, by simp [parts], ?_⟩
  intro i v hv
  have hpart : (parts ⟨.array element rules, some (.array items), p⟩)[i]? =
      some ⟨element, some v, p.index i⟩ := by
    simp only [parts, List.getElem?_map, List.getElem?_zipIdx, hv, Option.map_some, Nat.zero_add]
  have hrun := ho _ (List.mem_of_getElem? hpart)
  obtain ⟨y, hy⟩ := Schema.present_of_present he hrun
  rw [hy] at hrun
  refine ⟨y, ?_, hrun⟩
  rw [List.getElem?_map, hpart, Option.map_some, hy]
  rfl

theorem outputs_of_object_ok {shape : List (String × Schema)} (hs : ∀ f ∈ shape, f.2.Native)
    {unknownKeys : UnknownKeys} {message : Option String} {entries : List (String × Value)}
    {p : Path} {out : Option Value}
    (h : (run ⟨.object shape unknownKeys message, some (.object entries), p⟩).outcome =
      .ok (.ok out)) :
    ∃ outs, out = some (.object outs) ∧
      ∀ f ∈ shape, ∀ v, entries.lookup f.1 = some v → ∃ y, (f.1, y) ∈ outs ∧
        (f.2.validate (some v) (p.key f.1)).outcome = .ok (.ok (some y)) := by
  obtain ⟨o, ho, _, rfl⟩ := object_ok_iff.mp h
  refine ⟨_, rfl, ?_⟩
  intro f hf v hv
  have hrun := ho f hf
  rw [hv] at hrun
  obtain ⟨y, hy⟩ := Schema.present_of_present (hs f hf) hrun
  rw [hy] at hrun
  have hproduced : (f.1, y) ∈ produced shape o :=
    List.mem_filterMap.mpr ⟨f, hf, by rw [hy]; rfl⟩
  exact ⟨y, List.mem_append_left _ hproduced, hrun⟩

end Call

namespace Schema

theorem parse_ok_iff {s : Schema} (hs : s.Native) {v w : Value} :
    (s.parse v).outcome = .ok (.ok w) ↔
      (s.parseInput (some v)).outcome = .ok (.ok (some w)) := by
  cases hroot : (s.parseInput (some v)).outcome with
  | error p => simp [parse_eq_fault_iff.mpr hroot]
  | ok verdict =>
    rw [parse_of_verdict hroot]
    cases verdict with
    | error is => simp [Except.map]
    | ok out =>
      obtain ⟨y, rfl⟩ := present_of_present hs hroot
      simp [Except.map]

/-- What a schema makes of present inputs. -/
structure KeepsPresent (s : Schema) : Prop where
  value : ∀ v p out, (s.validate (some v) p).outcome = .ok (.ok out) → ∃ y, out = some y
  verdict : s.Quiet → ∀ v p, (∃ is, (s.validate (some v) p).outcome = .ok (.error is)) ∨
    ∃ y, (s.validate (some v) p).outcome = .ok (.ok (some y))
  elements : ∀ element rules x p out, s = .array element rules →
    (s.validate x p).outcome = .ok (.ok out) →
      ∃ items outs, x = some (.array items) ∧ out = some (.array outs) ∧
        outs.length = items.length ∧ ∀ i v, items[i]? = some v → ∃ y, outs[i]? = some y ∧
          (element.validate (some v) (p.index i)).outcome = .ok (.ok (some y))
  fields : ∀ shape unknownKeys message x p out, s = .object shape unknownKeys message →
    (s.validate x p).outcome = .ok (.ok out) →
      ∃ entries outs, x = some (.object entries) ∧ out = some (.object outs) ∧
        (∀ f ∈ shape, f.1 ∉ Entries.names outs → entries.lookup f.1 = none) ∧
        ∀ f ∈ shape, ∀ v, entries.lookup f.1 = some v → ∃ y, (f.1, y) ∈ outs ∧
          (f.2.validate (some v) (p.key f.1)).outcome = .ok (.ok (some y))
  parse : ∀ v w, (s.parse v).outcome = .ok (.ok w) ↔
    (s.parseInput (some v)).outcome = .ok (.ok (some w))

end Schema

/-- A tree of the library's own nodes. A present input that is accepted gives a value, and one that
is not is refused, unless a callback is loud. So the output of an array has as many elements as the
input, each of them what the element schema gives for that element, the output of an object omits a
declared field only where the input has none, and parsing gives a value exactly where validation at
the root gives it. -/
theorem present_stays_present {s : Schema} (hs : s.Native) : s.KeepsPresent := by
  constructor
  case value => exact fun v p out h => Schema.present_of_present hs h
  case verdict =>
    intro hq v p
    obtain ⟨verdict, hv⟩ := Schema.exists_verdict hs hq (some v) p
    cases verdict with
    | error is => exact .inl ⟨is, hv⟩
    | ok out =>
      obtain ⟨y, rfl⟩ := Schema.present_of_present hs hv
      exact .inr ⟨y, hv⟩
  case elements =>
    rintro element rules x p out rfl h
    obtain ⟨items, rfl⟩ := Call.exists_items_of_ok h
    obtain ⟨outs, hout, hl, hy⟩ := Call.outputs_of_array_ok (hs.child List.mem_cons_self) h
    exact ⟨items, outs, rfl, hout, hl, hy⟩
  case fields =>
    rintro shape unknownKeys message x p out rfl h
    obtain ⟨entries, rfl⟩ := Call.exists_entries_of_ok h
    have hfields : ∀ f ∈ shape, f.2.Native := fun f hf => hs.child (List.mem_map_of_mem hf)
    obtain ⟨outs, hout, hy⟩ := Call.outputs_of_object_ok hfields h
    refine ⟨entries, outs, rfl, hout, ?_, hy⟩
    intro f hf hn
    cases hv : entries.lookup f.1 with
    | none => rfl
    | some v =>
      obtain ⟨y, hm, _⟩ := hy f hf v hv
      exact absurd (List.mem_map_of_mem hm) hn
  case parse => exact fun v w => Schema.parse_ok_iff hs

def marks : Schema :=
  .array (.union [.void, .object [("mark", .nullable .undefined), ("remark", .optional .any)]
    .strip none, .optional .any] none) .none

theorem native_marks : marks.Native := by
  have hvoid : Schema.Native .void := .leaf rfl rfl
  have hmark : Schema.Native (.nullable .undefined) := .wrap rfl rfl (.leaf rfl rfl)
  have hany : Schema.Native (.optional .any) := .wrap rfl rfl (.leaf rfl rfl)
  have hobject : Schema.Native (.object [("mark", .nullable .undefined),
      ("remark", .optional .any)] .strip none) :=
    .node rfl (List.forall_mem_cons.mpr ⟨hmark, List.forall_mem_singleton.mpr hany⟩)
  have hunion : Schema.Native (.union [.void, .object [("mark", .nullable .undefined),
      ("remark", .optional .any)] .strip none, .optional .any] none) :=
    .node rfl (List.forall_mem_cons.mpr ⟨hvoid, List.forall_mem_cons.mpr
      ⟨hobject, List.forall_mem_singleton.mpr hany⟩⟩)
  exact .wrap rfl rfl hunion

/-- Nothing is dropped and no null is put in. -/
theorem present_stays_present_marks :
    marks.Native ∧
      (marks.validate (some (.array [.object [("mark", .null), ("by", .int 1)], .int 2, .null]))
        []).outcome = .ok (.ok (some (.array [.object [("mark", .null)], .int 2, .null]))) ∧
      (marks.parse (.array [.object [("mark", .null), ("by", .int 1)], .int 2, .null])).outcome =
        .ok (.ok (.array [.object [("mark", .null)], .int 2, .null])) := by
  have h : (marks.validate (some (.array [.object [("mark", .null), ("by", .int 1)], .int 2,
      .null])) []).outcome =
    .ok (.ok (some (.array [.object [("mark", .null)], .int 2, .null]))) := rfl
  exact ⟨native_marks, h, ((present_stays_present native_marks).parse _ _).mpr h⟩

end Schemata
