import Schemata.Proofs.Report
import Schemata.Proofs.Containment

/-! # Where issues are

Following a path from an input takes keys at objects and indices inside arrays; only at its end may
it come to nothing, by a key that the object does not have. A call that is reached is found by
following the rest of its path, so each issue is about something inside the input.
-/
namespace Schemata

/-- What lies at the end of a path, when the path can be followed there: absent for a last key that
is missing. -/
def Path.follow : Path → Option Value → Option (Option Value)
  | [], x => some x
  | .key name :: q, some (.object entries) => follow q (entries.lookup name)
  | .index i :: q, some (.array items) => if i < items.length then follow q items[i]? else none
  | _ :: _, _ => none

theorem Path.follow_append {p q : Path} {x y : Option Value} (h : p.follow x = some y) :
    Path.follow (p ++ q) x = Path.follow q y := by
  induction p, x using Path.follow.induct with
  | case1 x => cases h; rfl
  | case2 name p entries ih => exact ih h
  | case3 i p items hi ih =>
    simp only [Path.follow, if_pos hi] at h
    simp only [List.cons_append, Path.follow, if_pos hi]
    exact ih h
  | case4 i p items hi => simp [Path.follow, hi] at h
  | case5 seg p x h₁ h₂ => simp [Path.follow] at h

namespace Call
variable {c d : Call}

/-- One step: a part lies at the call's own place, or one key or index further. -/
theorem path_of_mem_parts (h : d ∈ c.parts) :
    ∃ q, d.path = c.path ++ q ∧ Path.follow q c.input = some d.input := by
  unfold parts at h
  split at h
  case h_1 element _ items path =>
    obtain ⟨⟨v, i⟩, hv, rfl⟩ := List.mem_map.mp h
    obtain ⟨hi, hv⟩ := List.mem_zipIdx' hv
    exact ⟨[.index i], rfl, by simp [Path.follow, hi, hv]⟩
  case h_2 shape _ _ entries path =>
    obtain ⟨f, _, rfl⟩ := List.mem_map.mp h
    exact ⟨[.key f.1], rfl, rfl⟩
  case h_3 options _ input path =>
    obtain ⟨option, _, rfl⟩ := List.mem_map.mp h
    exact ⟨[], (List.append_nil _).symm, rfl⟩
  all_goals
    first
    | exact absurd h List.not_mem_nil
    | obtain rfl := List.mem_singleton.mp h
      exact ⟨[], (List.append_nil _).symm, rfl⟩

theorem Reaches.path (h : c.Reaches d) :
    ∃ q, d.path = c.path ++ q ∧ Path.follow q c.input = some d.input := by
  induction h with
  | refl => exact ⟨[], (List.append_nil _).symm, rfl⟩
  | tail _ hd ih =>
    obtain ⟨q, hp, hf⟩ := ih
    obtain ⟨r, hr, hg⟩ := path_of_mem_parts hd.mem_parts
    refine ⟨q ++ r, by rw [hr, hp, List.append_assoc], ?_⟩
    rw [Path.follow_append hf, hg]

/-- An issue of a run is about a place that the rest of its path leads to. -/
theorem exists_follow_of_mem_issues {i : Issue} {v : Verdict} (hc : c.schema.Native)
    (hv : c.run.outcome = .ok v) (h : i ∈ v.issues) :
    ∃ q found, i.path = c.path ++ q ∧ Path.follow q c.input = some found ∧
      (i.code = .invalidUnion ∨ i.code = .invalidType ∧ i.expected ≠ some "integer" →
        i.received = some (Kind.of found).name) := by
  obtain ⟨d, hd, ho⟩ := reached_of_mem_issues hc hv h
  obtain ⟨q, hp, hf⟩ := hd.path
  exact ⟨q, d.input, ho.path.trans hp, hf, ho.received⟩

theorem prefix_of_mem_issues {i : Issue} {v : Verdict} (hc : c.schema.Native)
    (hv : c.run.outcome = .ok v) (h : i ∈ v.issues) : c.path <+: i.path := by
  obtain ⟨q, _, hq, _⟩ := exists_follow_of_mem_issues hc hv h
  exact ⟨q, hq.symm⟩

end Call

/-- A validation by the library's own schemas gives a verdict, unless a callback is loud. Each issue
of a verdict is about something inside the input: the rest of its path can be followed from there,
and the kind that an issue about a type or a union says it received is that of what is found. -/
theorem issues_inside_input {s : Schema} (hs : s.Native) (input : Option Value) (path : Path) :
    (s.Quiet → ∃ verdict, (s.validate input path).outcome = .ok verdict) ∧
    ∀ verdict, (s.validate input path).outcome = .ok verdict →
      ∀ i ∈ verdict.issues, ∃ q found, i.path = path ++ q ∧ Path.follow q input = some found ∧
        (i.code = .invalidUnion ∨ i.code = .invalidType ∧ i.expected ≠ some "integer" →
          i.received = some (Kind.of found).name) := by
  constructor
  · intro hq
    exact Schema.exists_verdict hs hq input path
  · intro verdict hv i hi
    exact Call.exists_follow_of_mem_issues (c := ⟨s, input, path⟩) hs hv hi

def rows : Schema :=
  .object [("rows", .array (.optional (.object [("name", .string .none)] .strict none)) .none)]
    .strip none

theorem native_rows : rows.Native := by
  have hname : Schema.Native (.string .none) := .leaf rfl rfl
  have hrow : Schema.Native (.object [("name", .string .none)] .strict none) := .wrap rfl rfl hname
  have helement : Schema.Native (.optional (.object [("name", .string .none)] .strict none)) :=
    .wrap rfl rfl hrow
  exact .wrap rfl rfl (.wrap rfl rfl helement)

def missingName : Issue :=
  ⟨[.key "body", .key "rows", .index 0, .key "name"], "Required", .invalidType, some "undefined",
    some "string"⟩

theorem issues_inside_input_rows :
    rows.Native ∧
      (rows.validate (some (.object [("rows", .array [.object []])])) [.key "body"]).outcome =
        .ok (.error (.single missingName)) ∧
      ∃ q found, missingName.path = [.key "body"] ++ q ∧
        Path.follow q (some (.object [("rows", .array [.object []])])) = some found ∧
        missingName.received = some (Kind.of found).name := by
  have hr : (rows.validate (some (.object [("rows", .array [.object []])])) [.key "body"]).outcome =
    .ok (.error (.single missingName)) := rfl
  obtain ⟨_, hi⟩ := issues_inside_input native_rows
    (some (.object [("rows", .array [.object []])])) [.key "body"]
  obtain ⟨q, found, hp, hf, hk⟩ := hi _ hr missingName (List.mem_singleton_self _)
  exact ⟨native_rows, hr, q, found, hp, hf, hk (.inr ⟨rfl, by simp [missingName]⟩)⟩

/-- A missing name is found missing. -/
example : Path.follow [.key "rows", .index 0, .key "name"]
    (some (.object [("rows", .array [.object []])])) = some none := rfl

end Schemata
