import Schemata.Proofs.Report
import Schemata.Schema.Parse

/-! # Faults

A fault of a call that is reached ends everything around it. It is that of a custom node, or what is
left of the fault of a callback when its payload is loud, as the guard that drops the payload then
faults itself. So a tree of the library's own nodes with quiet callbacks always comes to a verdict.
The safe form of parsing has a guard of its own, no more proof against a loud payload.
-/
namespace Schemata
namespace Call
variable {c d : Call} {e : Payload}

/-- One step: a call ends with the fault of a part that it enters, and with what the part logged. -/
theorem run_of_enters_fault (h : c.Enters d) (hd : d.run.outcome = .error e) :
    ∃ log, c.run = ⟨log ++ d.run.log, .error e⟩ := by
  obtain ⟨before, after, hp, hb⟩ := h
  cases hu : c.isUnion with
  | false =>
    have hm := Run.mapM_of_error after (fun b hm => (hb b hm).imp fun v hv => hv.1) hd
    rw [run_eq hu, hp, hm, Run.bind_of_error rfl]
    exact ⟨_, rfl⟩
  | true =>
    obtain ⟨s, x, p⟩ := c
    cases s with
    | union options message =>
      obtain ⟨os, rest, rfl, rfl, hr⟩ := List.map_eq_append_iff.mp hp
      obtain ⟨o, os', rfl, rfl, rfl⟩ := List.map_eq_cons_iff.mp hr
      have hb' : ∀ b ∈ os, ∃ is, (b.validate x p).outcome = .ok (.error is) := by
        intro b hm
        obtain ⟨v, hv, hg⟩ := hb _ (List.mem_map_of_mem hm)
        cases v with
        | ok out => exact hg.elim
        | error is => exact ⟨is, hv⟩
      have hf := firstAccepted_of_refused (o :: os') hb'
      rw [firstAccepted_of_fault os' hd] at hf
      rw [run_union_of_fault message (by rw [hf]), hf]
      exact ⟨_, rfl⟩
    | _ => cases hu

theorem run_of_reaches_fault (h : c.Reaches d) (hd : d.run.outcome = .error e) :
    ∃ log, c.run = ⟨log ++ d.run.log, .error e⟩ := by
  induction h using Relation.ReflTransGen.head_induction_on with
  | refl => exact ⟨[], by rw [← hd]; rfl⟩
  | head hc _ ih =>
    obtain ⟨log, hl⟩ := ih
    obtain ⟨log', hl'⟩ := run_of_enters_fault hc (by rw [hl])
    exact ⟨log' ++ log, by rw [hl', hl, List.append_assoc]⟩

/-- A fault of a call's own: that of a custom node, or what is left of one that a callback threw on
the value of the part. -/
inductive Throws (c : Call) (e : Payload) : Prop
  | custom (hc : c.schema.isCustom = true) (h : c.run.outcome = .error e)
  | callback {d : Call} {v : Value} (hd : d ∈ c.parts) (hv : d.run.outcome = .ok (.ok (some v)))
    (h : c.schema.burst? v = some e)

theorem outcome_of_throws (h : c.Throws e) : c.run.outcome = .error e := by
  cases h with
  | custom _ h => exact h
  | @callback d v hd hv h =>
    obtain ⟨s, x, p⟩ := c
    cases s with
    | refine inner check | transform inner mapper =>
      obtain rfl := List.mem_singleton.mp hd
      refine (congrArg Run.outcome (Run.bind_of_ok hv)).trans ?_
      exact Callback.after_eq_error_iff.mpr ⟨v, rfl, h⟩
    | _ => cases h

theorem throws_of_close {g : Call → Verdict} (hc : c.schema.isCustom = false)
    (hu : c.isUnion = false) (hg : ∀ d ∈ c.parts, d.run.outcome = .ok (g d))
    (h : (c.close (c.parts.map g)).outcome = .error e) : c.Throws e := by
  by_cases hgather : c.Gathers
  · obtain ⟨w, hw, _⟩ := close_of_gathers hgather (List.length_map g)
    rw [hw] at h
    cases h
  by_cases hp : c.parts = []
  · obtain ⟨out, is, hd⟩ := exists_decides hc hu hgather hp
    have hr : c.run = pure ((Verdict.settle out is).under c.path) := hd.run c.path
    rw [hp, List.map_nil, close_nil hu hp, hr] at h
    cases h
  obtain ⟨hone, hclose⟩ := wraps hu hgather hp
  obtain ⟨d, hd⟩ := List.length_eq_one_iff.mp hone
  have hmem : d ∈ c.parts := hd ▸ List.mem_singleton_self d
  rw [hd, List.map_singleton] at h
  rcases hclose with hclose | ⟨α, callback, next, hburst, hclose⟩
  · have hv : c.close [g d] = pure (g d) := hclose c.path (g d)
    rw [hv] at h
    cases h
  · have ha : c.close [g d] = callback.after c.path next (g d) := hclose c.path (g d)
    rw [ha, Callback.after_eq_error_iff] at h
    obtain ⟨v, hv, hb⟩ := h
    exact .callback hmem ((hg d hmem).trans (congrArg Except.ok hv)) ((hburst v).symm.trans hb)

theorem enters_or_throws_of_fault (h : c.run.outcome = .error e) :
    (∃ d, c.Enters d ∧ d.run.outcome = .error e) ∨ c.Throws e := by
  cases hc : c.schema.isCustom with
  | true => exact .inr (.custom hc h)
  | false =>
    cases hu : c.isUnion with
    | false =>
      rw [run_eq hu] at h
      rcases Run.outcome_bind_eq_error h with hp | ⟨vs, hvs, h⟩
      · obtain ⟨before, d, after, he, hb, hd⟩ := Run.exists_of_mapM_error hp
        refine .inl ⟨d, ⟨before, after, he, ?_⟩, hd⟩
        intro b hm
        exact (hb b hm).imp fun v hv => ⟨hv, goesOnAfter_of_isUnion_eq_false hu v⟩
      · obtain ⟨g, hg, rfl⟩ := Run.exists_of_mapM_ok hvs
        exact .inr (throws_of_close hc hu hg h)
    | true =>
      rcases union_cases hu with ⟨d, hd, ho⟩ | ⟨_, message, ho⟩
      · exact .inl ⟨d, hd, ho.symm.trans h⟩
      · cases ho.symm.trans h

theorem exists_reached_of_fault (h : c.run.outcome = .error e) : ∃ d, c.Reaches d ∧ d.Throws e := by
  induction c using partInduction with
  | call c ih =>
    rcases enters_or_throws_of_fault h with ⟨d, hd, hf⟩ | ht
    · obtain ⟨b, hb, ht⟩ := ih d hd.mem_parts hf
      exact ⟨b, .head hd hb, ht⟩
    · exact ⟨c, .refl, ht⟩

theorem outcome_eq_fault_iff : c.run.outcome = .error e ↔ ∃ d, c.Reaches d ∧ d.Throws e := by
  constructor
  · exact exists_reached_of_fault
  · rintro ⟨d, hd, ht⟩
    obtain ⟨log, hl⟩ := run_of_reaches_fault hd (outcome_of_throws ht)
    rw [hl]

/-- Quiet callbacks of the library's own nodes do not keep it from a verdict, whatever they do. -/
theorem exists_verdict (hc : c.schema.Native) (hq : c.schema.Quiet) :
    ∃ v, c.run.outcome = .ok v := by
  cases h : c.run.outcome with
  | ok v => exact ⟨v, rfl⟩
  | error e =>
    obtain ⟨d, hd, ht⟩ := exists_reached_of_fault h
    cases ht with
    | custom hcustom _ =>
      rw [(hd.every hc).self] at hcustom
      cases hcustom
    | callback _ _ hb =>
      rw [(hd.every hq).self] at hb
      cases hb

end Call

namespace Schema
variable {s : Schema} {value : Value} {e : Payload}

theorem exists_verdict (hs : s.Native) (hq : s.Quiet) (x : Option Value) (p : Path) :
    ∃ v, (s.validate x p).outcome = .ok v :=
  Call.exists_verdict (c := ⟨s, x, p⟩) hs hq

theorem safeParse_of_ok {result : Except Issues Value} (h : (s.parse value).outcome = .ok result) :
    (s.safeParse value).outcome = .ok (.ofExcept result) := by
  rw [safeParse, Run.guard_of_ok h, Run.bind_of_ok rfl]
  rfl

theorem safeParse_of_quiet {f : Fault} (h : (s.parse value).outcome = .error (.quiet f)) :
    (s.safeParse value).outcome = .ok (.failure f.issues) := by
  rw [safeParse, Run.guard_of_quiet h, Run.bind_of_ok rfl]
  rfl

theorem safeParse_of_loud {next : Payload} (h : (s.parse value).outcome = .error e)
    (he : e.dropped? = some next) : (s.safeParse value).outcome = .error next := by
  rw [safeParse, Run.guard_of_loud h he, Run.bind_of_error rfl]

theorem parse_of_verdict {v : Verdict} (h : (s.parseInput (some value)).outcome = .ok v) :
    (s.parse value).outcome = .ok (v.map fun out => out.getD .null) := by
  rw [parse, Run.bind_of_ok h]
  cases v <;> rfl

theorem parse_eq_fault_iff : (s.parse value).outcome = .error e ↔
    (s.parseInput (some value)).outcome = .error e := by
  cases h : (s.parseInput (some value)).outcome with
  | ok v => simp [parse_of_verdict h]
  | error f => simp only [parse, Run.bind_of_error h, Except.error.injEq]

end Schema

/-- Parsing and its safe form agree where parsing ends. Where it faults, the safe form has the one
issue of the fault, or faults with what a loud payload leaves. A fault of any node that is reached
ends the whole evaluation, whatever stands around the node, and all faults come from custom nodes or
are left by callbacks. Without custom nodes and loud callbacks parsing ends with a result, and
without custom nodes the code of the safe form's issue occurs nowhere. -/
theorem faults_contained (s : Schema) (value : Value) :
    (∀ result, (s.parse value).outcome = .ok result →
      (∀ v, (s.safeParse value).outcome = .ok (.success v) ↔ result = .ok v) ∧
      ∀ is, (s.safeParse value).outcome = .ok (.failure is) ↔ result = .error is) ∧
    (∀ f, (s.parse value).outcome = .error (.quiet f) → (s.safeParse value).outcome =
      .ok (.failure (.single ⟨Path.root, "An unknown error occurred: " ++ f.text, .unknownError,
        none, none⟩))) ∧
    (∀ p next, (s.parse value).outcome = .error p → p.dropped? = some next →
      (s.safeParse value).outcome = .error next) ∧
    (∀ input path (d : Call) p, Call.Reaches ⟨s, input, path⟩ d → d.run.outcome = .error p →
      ∃ log, s.validate input path = ⟨log ++ d.run.log, .error p⟩) ∧
    (∀ p, (s.parse value).outcome = .error p ↔
      ∃ d, Call.Reaches ⟨s, some value, Path.root⟩ d ∧ d.Throws p) ∧
    (s.Native → s.Quiet → ∃ result, (s.parse value).outcome = .ok result) ∧
    (s.Native → ∀ is, (s.parse value).outcome = .ok (.error is) →
      ∀ i ∈ is.toList, i.code ≠ .unknownError) := by
  refine ⟨?_, fun _ => Schema.safeParse_of_quiet, fun _ _ => Schema.safeParse_of_loud, ?_, ?_, ?_,
    ?_⟩
  · intro result h
    rw [Schema.safeParse_of_ok h]
    cases result with
    | ok v => simp [ParseResult.ofExcept]
    | error is => simp [ParseResult.ofExcept]
  · intro input path d p hd hp
    exact Call.run_of_reaches_fault hd hp
  · intro p
    rw [Schema.parse_eq_fault_iff]
    exact Call.outcome_eq_fault_iff (c := ⟨s, some value, Path.root⟩)
  · intro hs hq
    obtain ⟨v, hv⟩ := Schema.exists_verdict hs hq (some value) Path.root
    exact ⟨_, Schema.parse_of_verdict hv⟩
  · intro hs is h i hi
    obtain ⟨v, hv, hr⟩ := Run.outcome_bind_eq_ok h
    cases v with
    | ok out => cases hr
    | error is' =>
      cases hr
      obtain ⟨d, _, ho⟩ := Call.reached_of_mem_issues (c := ⟨s, some value, Path.root⟩) hs hv hi
      exact ho.code

/-- A custom node that faults, deep inside. -/
def faultyField : Schema :=
  .object
    [("n", .number .none),
      ("xs", .union [.refine (.array (.optional (.custom "fragile" fun _ _ => .fault
        (Fault.message "lost"))) .none) ⟨"ok", fun _ => .accept ()⟩, .any] none)]
    .strip none

theorem faults_contained_faultyField :
    (faultyField.parse (.object [("xs", .array [.null])])).outcome =
        .error (.quiet (.message "lost")) ∧
      (faultyField.safeParse (.object [("xs", .array [.null])])).outcome =
        .ok (.failure (.single ⟨[], "An unknown error occurred: lost", .unknownError, none,
          none⟩)) := by
  have h : (faultyField.parse (.object [("xs", .array [.null])])).outcome =
    .error (.quiet (.message "lost")) := rfl
  exact ⟨h, (faults_contained faultyField _).2.1 _ h⟩

/-- A predicate whose payload faults when it is dropped, and no custom node. -/
def burstingField : Schema :=
  .object [("n", .refine .any (.ofPredicate "positive"
    (fun _ => .fault (.loud (Fault.message "dropped"))) "m"))] .strip none

/-- Nothing is reported of the predicate: parsing faults, and the safe form tells of the second
payload. -/
theorem parse_burstingField :
    burstingField.Native ∧
      (burstingField.parse (.object [("n", .int 1)])).outcome =
        .error (.quiet (.message "dropped")) ∧
      (burstingField.safeParse (.object [("n", .int 1)])).outcome =
        .ok (.failure (.single ⟨[], "An unknown error occurred: dropped", .unknownError, none,
          none⟩)) := by
  have hany : Schema.Native .any := .leaf rfl rfl
  exact ⟨.wrap rfl rfl (.wrap rfl rfl hany), rfl, rfl⟩

end Schemata
