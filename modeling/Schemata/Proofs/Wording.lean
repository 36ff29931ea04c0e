import Schemata.Proofs.Containment
import Schemata.Proofs.Simulation
import Schemata.Schema.Build

/-! # Messages of one's own

A message that is given to a schema or to one of its constraints replaces the standard message of
an issue and decides nothing. So two schemas that are equal once all such messages are erased make
the same calls, accept the same inputs with the same outputs, and report issues that differ in
their messages only.
-/
namespace Schemata

/-! ## Erasing messages -/

def Rules.unworded {κ : Type} (rs : Rules κ) : Rules κ :=
  ⟨.none, rs.rules.map fun r => ⟨r.constraint, .none⟩⟩

namespace Schema

mutual
/-- The schema without the messages that were given to it and to the schemas in it. The messages of
callbacks are no such messages. -/
def unworded : Schema → Schema
  | .string rules => .string rules.unworded
  | .number rules => .number rules.unworded
  | .boolean _ => .boolean none
  | .literal value _ => .literal value none
  | .choice options _ => .choice options none
  | .array element rules => .array element.unworded rules.unworded
  | .object shape unknownKeys _ => .object (unwordedFields shape) unknownKeys none
  | .union options _ => .union (unwordedOptions options) none
  | .optional inner => .optional inner.unworded
  | .nullable inner => .nullable inner.unworded
  | .withDefault inner value => .withDefault inner.unworded value
  | .refine inner check => .refine inner.unworded check
  | .transform inner mapper => .transform inner.unworded mapper
  | .boxed inner => .boxed inner.unworded
  | s => s

def unwordedFields : List (String × Schema) → List (String × Schema)
  | [] => []
  | (name, schema) :: rest => (name, schema.unworded) :: unwordedFields rest

def unwordedOptions : List Schema → List Schema
  | [] => []
  | schema :: rest => schema.unworded :: unwordedOptions rest
end

theorem unwordedFields_eq (shape : List (String × Schema)) :
    unwordedFields shape = shape.map fun f => (f.1, f.2.unworded) := by
  induction shape with
  | nil => rfl
  | cons f shape ih => rw [unwordedFields, ih, List.map_cons]

theorem unwordedOptions_eq (options : List Schema) :
    unwordedOptions options = options.map unworded := by
  induction options with
  | nil => rfl
  | cons o options ih => rw [unwordedOptions, ih, List.map_cons]

end Schema

/-! ## Giving messages -/

theorem Rules.unworded_error {κ : Type} (rs : Rules κ) (message : String) :
    (rs.error message).unworded = rs.unworded := by
  unfold error
  split
  · rfl
  · next last h =>
    have hr : rs.rules = rs.rules.dropLast ++ [last] := by
      rw [List.dropLast_append_getLast? last h]
    rw [unworded, unworded, hr]
    simp

theorem Schema.unworded_of_error? {s t : Schema} {message : String}
    (h : s.error? message = some t) : t.unworded = s.unworded := by
  cases s with
  | string rules | number rules | array element rules =>
    cases h
    simp only [unworded, Rules.unworded_error]
  | boolean _ | literal _ _ | choice _ _ | object _ _ _ | union _ _ =>
    cases h
    simp only [unworded]
  | _ => cases h

/-! ## Verdicts without messages -/

def Issue.unworded (i : Issue) : Issue := { i with message := "" }

def Issues.unworded (is : Issues) : Issues := ⟨is.first.unworded, is.rest.map Issue.unworded⟩

def Verdict.unworded : Verdict → Verdict
  | .ok out => .ok out
  | .error is => .error is.unworded

theorem Issue.unworded_eq_iff {i j : Issue} : i.unworded = j.unworded ↔
    i.path = j.path ∧ i.code = j.code ∧ i.received = j.received ∧ i.expected = j.expected := by
  simp [Issue.unworded]

@[simp] theorem Issues.toList_unworded (is : Issues) :
    is.unworded.toList = is.toList.map Issue.unworded := rfl

namespace Verdict
variable {v w : Verdict}

@[simp] theorem unworded_ok (out : Option Value) : unworded (.ok out) = .ok out := rfl

@[simp] theorem unworded_error (is : Issues) : unworded (.error is) = .error is.unworded := rfl

@[simp] theorem unworded_conclude (value : Value) (is : List Issue) :
    (conclude value is).unworded = conclude value (is.map Issue.unworded) := by
  cases is <;> rfl

@[simp] theorem value?_unworded (v : Verdict) : v.unworded.value? = v.value? := by
  cases v <;> rfl

@[simp] theorem issues_unworded (v : Verdict) :
    v.unworded.issues = v.issues.map Issue.unworded := by
  cases v <;> rfl

/-- The same verdict but for messages. -/
def Reworded (v w : Verdict) : Prop := v.unworded = w.unworded

theorem Reworded.value?_eq (h : Reworded v w) : v.value? = w.value? := by
  rw [← value?_unworded v, h, value?_unworded]

theorem Reworded.issues_eq (h : Reworded v w) :
    v.issues.map Issue.unworded = w.issues.map Issue.unworded := by
  rw [← issues_unworded v, h, issues_unworded]

theorem sound_reworded : Sound Reworded := by
  intro v w h
  cases v <;> cases w <;> simp_all [Reworded]

end Verdict

theorem Verdict.reworded_members {vs ws : List Verdict} (h : List.Forall₂ Reworded vs ws) :
    vs.map value? = ws.map value? ∧
      (vs.flatMap issues).map Issue.unworded = (ws.flatMap issues).map Issue.unworded := by
  induction h with
  | nil => exact ⟨rfl, rfl⟩
  | cons hvw _ ih =>
    obtain ⟨hv, hi⟩ := ih
    simp [hvw.value?_eq, hvw.issues_eq, hv, hi]

theorem Rules.issues_unworded {κ : Type} (rs : Rules κ) (violation : κ → Option Violation)
    (path : Path) : (rs.unworded.issues violation path).map Issue.unworded =
      (rs.issues violation path).map Issue.unworded := by
  simp only [issues, unworded, List.map_filterMap, List.filterMap_map, Function.comp_def,
    Option.map_map]
  rfl

/-! ## One call -/

namespace Call
variable {c : Call}

def unworded (c : Call) : Call := ⟨c.schema.unworded, c.input, c.path⟩

theorem isUnion_unworded (c : Call) : c.unworded.isUnion = c.isUnion := by
  obtain ⟨s, x, p⟩ := c
  cases s <;> simp [unworded, isUnion, Schema.unworded]

theorem parts_unworded (c : Call) : c.unworded.parts = c.parts.map unworded := by
  obtain ⟨s, x, p⟩ := c
  cases s with
  | array element rules =>
    rcases x with _ | v
    · rfl
    cases v with
    | array items => simp [unworded, parts, Schema.unworded, Function.comp_def]
    | _ => rfl
  | object shape unknownKeys message =>
    rcases x with _ | v
    · rfl
    cases v with
    | object entries =>
      simp [unworded, parts, Schema.unworded, Schema.unwordedFields_eq, Function.comp_def]
    | _ => rfl
  | union options message =>
    simp [unworded, parts, Schema.unworded, Schema.unwordedOptions_eq, Function.comp_def]
  | optional inner | withDefault inner value => cases x <;> rfl
  | nullable inner =>
    rcases x with _ | v
    · rfl
    cases v <;> rfl
  | _ => rfl

section Gathers
variable (hg : c.Gathers)
include hg

theorem gathers_unworded : c.unworded.Gathers := by
  unfold Gathers at hg
  split at hg
  · trivial
  · trivial
  · cases hg

theorem assembled_unworded : c.unworded.assembled = c.assembled := by
  unfold Gathers at hg
  split at hg
  · rfl
  · funext outs
    simp [unworded, Schema.unworded, assembled, Schema.unwordedFields_eq, Function.comp_def]
  · cases hg

theorem own_issues_unworded :
    c.unworded.leading.map Issue.unworded = c.leading.map Issue.unworded ∧
      c.unworded.trailing.map Issue.unworded = c.trailing.map Issue.unworded := by
  unfold Gathers at hg
  split at hg
  · next element rules items path => exact ⟨rules.issues_unworded _ path, rfl⟩
  · next shape unknownKeys message entries path =>
    refine ⟨rfl, ?_⟩
    cases unknownKeys <;>
      simp [unworded, Schema.unworded, trailing, Schema.unwordedFields_eq, Function.comp_def]
  · cases hg

theorem close_unworded_of_gathers {vs ws : List Verdict} (hl : vs.length = c.parts.length)
    (h : List.Forall₂ Verdict.Reworded vs ws) :
    Run.Related Verdict.Reworded (c.close vs) (c.unworded.close ws) := by
  have hlw : ws.length = c.unworded.parts.length := by
    rw [parts_unworded, List.length_map, ← hl, h.length_eq]
  obtain ⟨hvalues, hissues⟩ := Verdict.reworded_members h
  obtain ⟨hleading, htrailing⟩ := own_issues_unworded hg
  rw [close_eq_conclude hg hl, close_eq_conclude (gathers_unworded hg) hlw]
  refine .pure ?_
  simp only [Verdict.Reworded, Verdict.unworded_conclude, assembled_unworded hg, hvalues,
    List.map_append, hissues, hleading, htrailing]

end Gathers

theorem reworded_invalidType (expected : String) (message : Option String) (x : Option Value)
    (p : Path) : Verdict.Reworded (.error (.single (invalidType expected message x p)))
      (.error (.single (invalidType expected none x p))) := rfl

theorem reworded_conclude {κ : Type} (value : Value) (rs : Rules κ)
    (violation : κ → Option Violation) (p : Path) :
    Verdict.Reworded (.conclude value (rs.issues violation p))
      (.conclude value (rs.unworded.issues violation p)) := by
  rw [Verdict.Reworded, Verdict.unworded_conclude, Verdict.unworded_conclude,
    rs.issues_unworded violation p]

theorem reworded_literal (value : Value) (message : Option String) (x : Option Value) (p : Path) :
    Verdict.Reworded (Schema.literalVerdict value message x p)
      (Schema.literalVerdict value none x p) := by
  cases x with
  | none => rfl
  | some v =>
    simp only [Schema.literalVerdict, Verdict.Reworded]
    split <;> rfl

theorem reworded_choice (options : List String) (message : Option String) (x : Option Value)
    (p : Path) : Verdict.Reworded (Schema.choiceVerdict options message x p)
      (Schema.choiceVerdict options none x p) := by
  match x with
  | some (.string str) =>
    simp only [Schema.choiceVerdict, Verdict.Reworded]
    split <;> rfl
  | none | some .null | some (.bool _) | some (.number _) | some (.array _)
  | some (.object _) => rfl

theorem run_unworded_of_alone (hu : c.isUnion = false) (hg : ¬ c.Gathers) (hp : c.parts = []) :
    Run.Related Verdict.Reworded c.run c.unworded.run := by
  obtain ⟨s, x, p⟩ := c
  cases s with
  | union options message => cases hu
  | string rules =>
    match x with
    | some (.string str) => exact .pure (reworded_conclude _ rules _ p)
    | none | some .null | some (.bool _) | some (.number _) | some (.array _)
    | some (.object _) => exact .pure (reworded_invalidType _ _ _ p)
  | number rules =>
    match x with
    | some (.number n) => exact .pure (reworded_conclude _ rules _ p)
    | none | some .null | some (.bool _) | some (.string _) | some (.array _)
    | some (.object _) => exact .pure (reworded_invalidType _ _ _ p)
  | boolean message =>
    match x with
    | some (.bool b) => exact .pure rfl
    | none | some .null | some (.number _) | some (.string _) | some (.array _)
    | some (.object _) => exact .pure (reworded_invalidType _ _ _ p)
  | literal value message => exact .pure (reworded_literal value message x p)
  | choice options message => exact .pure (reworded_choice options message x p)
  | array element rules =>
    match x with
    | some (.array items) => exact absurd trivial hg
    | none | some .null | some (.bool _) | some (.number _) | some (.string _)
    | some (.object _) => exact .pure (reworded_invalidType _ _ _ p)
  | object shape unknownKeys message =>
    match x with
    | some (.object entries) => exact absurd trivial hg
    | none | some .null | some (.bool _) | some (.number _) | some (.string _)
    | some (.array _) => exact .pure (reworded_invalidType _ _ _ p)
  | optional inner | withDefault inner value =>
    cases x with
    | none => exact .pure rfl
    | some v => cases hp
  | nullable inner =>
    match x with
    | some .null => exact .pure rfl
    | none | some (.bool _) | some (.number _) | some (.string _) | some (.array _)
    | some (.object _) => cases hp
  | refine inner check | transform inner mapper | boxed inner => cases hp
  | null | undefined | void | any | unknown | custom typeName run =>
    exact .refl (R := Verdict.Reworded) (fun _ => rfl) _

theorem close_unworded_of_wraps (hu : c.isUnion = false) (hg : ¬ c.Gathers) (hp : c.parts ≠ [])
    (v : Verdict) : c.unworded.close [v] = c.close [v] := by
  obtain ⟨s, x, p⟩ := c
  cases s with
  | union options message => cases hu
  | array element rules =>
    match x with
    | some (.array items) => exact absurd trivial hg
    | none | some .null | some (.bool _) | some (.number _) | some (.string _)
    | some (.object _) => exact absurd rfl hp
  | object shape unknownKeys message =>
    match x with
    | some (.object entries) => exact absurd trivial hg
    | none | some .null | some (.bool _) | some (.number _) | some (.string _)
    | some (.array _) => exact absurd rfl hp
  | optional inner | nullable inner | withDefault inner value | refine inner check
  | transform inner mapper | boxed inner => rfl
  | _ => exact absurd rfl hp

/-- A callback sees outputs only. -/
theorem after_reworded {α : Type} (callback : Callback α) (p : Path) (next : Value → α → Value)
    {v w : Verdict} (h : Verdict.Reworded v w) :
    Run.Related Verdict.Reworded (callback.after p next v) (callback.after p next w) := by
  cases v with
  | ok out =>
    cases w with
    | ok out' =>
      obtain rfl : out = out' := Except.ok.inj h
      exact .refl (R := Verdict.Reworded) (fun _ => rfl) _
    | error js => cases h
  | error is =>
    cases w with
    | ok out' => cases h
    | error js => exact .pure h

theorem close_unworded {vs ws : List Verdict} (hu : c.isUnion = false)
    (hl : vs.length = c.parts.length) (h : List.Forall₂ Verdict.Reworded vs ws) :
    Run.Related Verdict.Reworded (c.close vs) (c.unworded.close ws) := by
  by_cases hg : c.Gathers
  · exact close_unworded_of_gathers hg hl h
  by_cases hp : c.parts = []
  · obtain rfl : vs = [] := List.eq_nil_of_length_eq_zero (by simp [hl, hp])
    obtain rfl := List.forall₂_nil_left_iff.mp h
    have hp' : c.unworded.parts = [] := by rw [parts_unworded, hp, List.map_nil]
    rw [close_nil hu hp, close_nil ((isUnion_unworded c).trans hu) hp']
    exact run_unworded_of_alone hu hg hp
  obtain ⟨hone, hclose⟩ := wraps hu hg hp
  obtain ⟨v, rfl⟩ := List.length_eq_one_iff.mp (hl.trans hone)
  obtain ⟨w, _, hvw, hnil, rfl⟩ := List.forall₂_cons_left_iff.mp h
  obtain rfl := List.forall₂_nil_left_iff.mp hnil
  rw [close_unworded_of_wraps hu hg hp]
  rcases hclose with hclose | ⟨α, callback, next, _, hclose⟩
  · have hv : c.close [v] = pure v := hclose c.path v
    have hw : c.close [w] = pure w := hclose c.path w
    rw [hv, hw]
    exact .pure hvw
  · have hv : c.close [v] = callback.after c.path next v := hclose c.path v
    have hw : c.close [w] = callback.after c.path next w := hclose c.path w
    rw [hv, hw]
    exact after_reworded callback c.path next hvw

theorem simulation_unworded : Simulation (fun c d => d = c.unworded) Verdict.Reworded where
  sound := Verdict.sound_reworded
  isUnion := by
    rintro c _ rfl
    exact (isUnion_unworded c).symm
  parts := by
    rintro c _ rfl
    rw [parts_unworded, List.forall₂_map_right_iff]
    exact List.forall₂_same.mpr fun _ _ => rfl
  close := by
    rintro c _ vs ws rfl hu hl h
    exact close_unworded hu hl h
  refusal := by
    intro options message x p others message' y q h
    obtain ⟨rfl, rfl⟩ : x = y ∧ p = q := ⟨(congrArg input h).symm, (congrArg path h).symm⟩
    rfl

end Call

/-- A whole run: schemas that differ in messages only have runs that do so. -/
theorem Schema.related_of_unworded_eq {s t : Schema} (h : s.unworded = t.unworded)
    (x : Option Value) (p : Path) :
    Run.Related Verdict.Reworded (s.validate x p) (t.validate x p) := by
  have hs : Run.Related Verdict.Reworded (s.validate x p) (s.unworded.validate x p) :=
    Call.simulation_unworded.run (c := ⟨s, x, p⟩) rfl
  have ht : Run.Related Verdict.Reworded (t.validate x p) (t.unworded.validate x p) :=
    Call.simulation_unworded.run (c := ⟨t, x, p⟩) rfl
  rw [h] at hs
  exact hs.trans ht.symm fun _ _ _ hab hcb => hab.trans hcb.symm

/-- To give a schema a message is to leave its runs as they are, but for what they say. -/
theorem Schema.related_of_error? {s t : Schema} {message : String} (h : s.error? message = some t)
    (x : Option Value) (p : Path) :
    Run.Related Verdict.Reworded (s.validate x p) (t.validate x p) :=
  related_of_unworded_eq (unworded_of_error? h).symm x p

theorem Verdict.reworded_cases {v w : Verdict} (h : v.Reworded w) :
    (∃ out, v = .ok out ∧ w = .ok out) ∨ ∃ is js, v = .error is ∧ w = .error js ∧
      List.Forall₂ (fun i j => i.path = j.path ∧ i.code = j.code ∧ i.received = j.received ∧
        i.expected = j.expected) is.toList js.toList := by
  cases v with
  | ok out =>
    cases w with
    | ok out' =>
      obtain rfl : out = out' := Except.ok.inj h
      exact .inl ⟨out, rfl, rfl⟩
    | error js => cases h
  | error is =>
    cases w with
    | ok out => cases h
    | error js =>
      have hl : is.toList.map Issue.unworded = js.toList.map Issue.unworded := h.issues_eq
      rw [← List.forall₂_eq_eq_eq, List.forall₂_map_left_iff, List.forall₂_map_right_iff] at hl
      exact .inr ⟨is, js, rfl, rfl, hl.imp fun _ _ => Issue.unworded_eq_iff.mp⟩

/-- Schemas that are equal without the messages given to them call the same callbacks and accept the
same inputs with the same outputs. What they refuse they refuse with equally many issues, which
agree one by one in all but their messages; and what makes one of them fault makes the other fault.
Trees of the library's own nodes come to a verdict, unless a callback is loud. -/
theorem messages_decide_nothing {s t : Schema} (h : s.unworded = t.unworded) (x : Option Value)
    (p : Path) :
    (s.validate x p).log = (t.validate x p).log ∧
      ((∃ out, (s.validate x p).outcome = .ok (.ok out) ∧
          (t.validate x p).outcome = .ok (.ok out)) ∨
        (∃ is js, (s.validate x p).outcome = .ok (.error is) ∧
          (t.validate x p).outcome = .ok (.error js) ∧
          List.Forall₂ (fun i j => i.path = j.path ∧ i.code = j.code ∧ i.received = j.received ∧
            i.expected = j.expected) is.toList js.toList) ∨
        ∃ f, (s.validate x p).outcome = .error f ∧ (t.validate x p).outcome = .error f) ∧
      (s.Native → s.Quiet → ∃ verdict, (s.validate x p).outcome = .ok verdict) := by
  have hr := Schema.related_of_unworded_eq h x p
  refine ⟨hr.log, ?_, fun hs hq => Schema.exists_verdict hs hq x p⟩
  rcases hr.ends with ⟨v, w, hv, hw, hvw⟩ | hf
  · rcases Verdict.reworded_cases hvw with ⟨out, rfl, rfl⟩ | ⟨is, js, rfl, rfl, hij⟩
    · exact .inl ⟨out, hv, hw⟩
    · exact .inr (.inl ⟨is, js, hv, hw, hij⟩)
  · exact .inr (.inr hf)

def profile (name : StringRules) (tags : ArrayRules) (message : Option String) : Schema :=
  .object [("name", .string name), ("tags", .array (.choice ["a", "b"] message) tags)] .strict
    message

def plainProfile : Schema := profile (StringRules.min .none 2) (ArrayRules.unique .none) none

def wordyProfile : Schema :=
  profile ((StringRules.min (Rules.error .none "text") 2).error "short")
    ((ArrayRules.unique .none).error "twice") (some "no")

def badProfile : Value :=
  .object [("name", .string "A"), ("tags", .array [.string "c", .string "c"]), ("x", .null)]

theorem messages_decide_nothing_profile :
    plainProfile.unworded = wordyProfile.unworded ∧
      ∃ is js, (plainProfile.validate (some badProfile) []).outcome = .ok (.error is) ∧
        (wordyProfile.validate (some badProfile) []).outcome = .ok (.error js) ∧
        js.toList.map Issue.message = ["short", "twice", "no", "no", "Unrecognized key: 'x'"] ∧
        List.Forall₂ (fun i j => i.path = j.path ∧ i.code = j.code ∧ i.received = j.received ∧
          i.expected = j.expected) is.toList js.toList := by
  have hu : plainProfile.unworded = wordyProfile.unworded := rfl
  have hm : (wordyProfile.validate (some badProfile) []).outcome.map
      (fun v => v.issues.map Issue.message) =
    .ok ["short", "twice", "no", "no", "Unrecognized key: 'x'"] := rfl
  obtain ⟨_, ⟨out, _, ho⟩ | ⟨is, js, hs, ht, hij⟩ | ⟨f, _, hf⟩, _⟩ :=
    messages_decide_nothing hu (some badProfile) []
  · rw [ho] at hm
    cases hm
  · rw [ht] at hm
    exact ⟨hu, is, js, hs, ht, Except.ok.inj hm, hij⟩
  · rw [hf] at hm
    cases hm

end Schemata
