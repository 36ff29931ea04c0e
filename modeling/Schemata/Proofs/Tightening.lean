import Mathlib.Data.List.Forall2
import Schemata.Callback.Stock
import Schemata.Proofs.Matching
import Schemata.Proofs.Output

/-! # Tightening

A schema is tightened when, somewhere in its tree, a constraint is appended, a node is wrapped in a
check, or a stripping object becomes strict. Outside unions a tightened schema accepts less, and what
it accepts has the output that it had before: a step keeps this order of schemas, whatever stands
around the node, and so does any number of steps. Below a union it may not, as another option may
then decide.
-/
namespace Schemata

namespace Rules
variable {κ : Type} {rs : Rules κ} {violation : κ → Option Violation} {p : Path}

/-- Append a constraint, with a message of its own or without one. -/
def push (rs : Rules κ) (constraint : κ) : Option String → Rules κ
  | .none => rs.add constraint
  | some message => (rs.add constraint).error message

theorem rules_push (rs : Rules κ) (constraint : κ) (message : Option String) :
    (rs.push constraint message).rules = rs.rules ++ [⟨constraint, message⟩] := by
  cases message with
  | none => rfl
  | some message => simp [push, error, add]

theorem issues_of_push {constraint : κ} {message : Option String}
    (h : (rs.push constraint message).issues violation p = []) : rs.issues violation p = [] := by
  rw [issues_eq_nil_iff] at h ⊢
  intro r hr
  apply h r
  rw [rules_push]
  exact List.mem_append_left _ hr

theorem conclude_of_push {value : Value} {constraint : κ} {message : Option String}
    {out : Option Value}
    (h : Verdict.conclude value ((rs.push constraint message).issues violation p) = .ok out) :
    Verdict.conclude value (rs.issues violation p) = .ok out := by
  obtain ⟨hi, ho⟩ := Verdict.conclude_eq_ok_iff.mp h
  exact Verdict.conclude_eq_ok_iff.mpr ⟨issues_of_push hi, ho⟩

end Rules

namespace Schema

/-- One tightening at one node of a tree. -/
inductive Tightens : Schema → Schema → Prop
  | string (rules : StringRules) (constraint : StringConstraint) (message : Option String) :
    Tightens (.string rules) (.string (rules.push constraint message))
  | number (rules : NumberRules) (constraint : NumberConstraint) (message : Option String) :
    Tightens (.number rules) (.number (rules.push constraint message))
  | array (element : Schema) (rules : ArrayRules) (constraint : ArrayConstraint)
    (message : Option String) :
    Tightens (.array element rules) (.array element (rules.push constraint message))
  | strict (shape : List (String × Schema)) (message : Option String) :
    Tightens (.object shape .strip message) (.object shape .strict message)
  | check (s : Schema) (check : Check) : Tightens s (.refine s check)
  | element {s t : Schema} (rules : ArrayRules) (h : Tightens s t) :
    Tightens (.array s rules) (.array t rules)
  | field {s t : Schema} (before : List (String × Schema)) (name : String)
    (after : List (String × Schema)) (unknownKeys : UnknownKeys) (message : Option String)
    (h : Tightens s t) :
    Tightens (.object (before ++ (name, s) :: after) unknownKeys message)
      (.object (before ++ (name, t) :: after) unknownKeys message)
  | option {s t : Schema} (before after : List Schema) (message : Option String)
    (h : Tightens s t) :
    Tightens (.union (before ++ s :: after) message) (.union (before ++ t :: after) message)
  | optional {s t : Schema} (h : Tightens s t) : Tightens (.optional s) (.optional t)
  | nullable {s t : Schema} (h : Tightens s t) : Tightens (.nullable s) (.nullable t)
  | withDefault {s t : Schema} (value : Value) (h : Tightens s t) :
    Tightens (.withDefault s value) (.withDefault t value)
  | refine {s t : Schema} (check : Check) (h : Tightens s t) :
    Tightens (.refine s check) (.refine t check)
  | transform {s t : Schema} (mapper : Mapper) (h : Tightens s t) :
    Tightens (.transform s mapper) (.transform t mapper)
  | boxed {s t : Schema} (h : Tightens s t) : Tightens (.boxed s) (.boxed t)

/-- The second schema accepts no more than the first, and with the same outputs. -/
def Narrows (s t : Schema) : Prop :=
  ∀ x p out, (t.validate x p).outcome = .ok (.ok out) → (s.validate x p).outcome = .ok (.ok out)

theorem Narrows.refl (s : Schema) : Narrows s s := fun _ _ _ h => h

theorem Narrows.trans {s t u : Schema} (h : Narrows s t) (h' : Narrows t u) : Narrows s u :=
  fun x p out hu => h x p out (h' x p out hu)

/-! ## Local tightenings -/

theorem narrows_string (rules : StringRules) (constraint : StringConstraint)
    (message : Option String) :
    Narrows (.string rules) (.string (rules.push constraint message)) := by
  intro x p out h
  match x with
  | some (.string s) => exact congrArg Except.ok (Rules.conclude_of_push (Except.ok.inj h))
  | none | some .null | some (.bool _) | some (.number _) | some (.array _)
  | some (.object _) => cases h

theorem narrows_number (rules : NumberRules) (constraint : NumberConstraint)
    (message : Option String) :
    Narrows (.number rules) (.number (rules.push constraint message)) := by
  intro x p out h
  match x with
  | some (.number n) => exact congrArg Except.ok (Rules.conclude_of_push (Except.ok.inj h))
  | none | some .null | some (.bool _) | some (.string _) | some (.array _)
  | some (.object _) => cases h

theorem narrows_elementRules (element : Schema) (rules : ArrayRules) (constraint : ArrayConstraint)
    (message : Option String) :
    Narrows (.array element rules) (.array element (rules.push constraint message)) := by
  intro x p out h
  obtain ⟨items, rfl⟩ := Call.exists_items_of_ok h
  obtain ⟨hr, ho⟩ := Call.array_ok_iff.mp h
  refine Call.array_ok_iff.mpr ⟨?_, ho⟩
  intro r hm
  apply hr r
  rw [Rules.rules_push]
  exact List.mem_append_left _ hm

/-- A strict object is accepted only where there was nothing to strip. -/
theorem narrows_strict (shape : List (String × Schema)) (message : Option String) :
    Narrows (.object shape .strip message) (.object shape .strict message) := by
  intro x p out h
  obtain ⟨entries, rfl⟩ := Call.exists_entries_of_ok h
  obtain ⟨o, ho, _, rfl⟩ := Call.object_ok_iff.mp h
  exact Call.object_ok_iff.mpr ⟨o, ho, by simp, rfl⟩

theorem narrows_check (s : Schema) (check : Check) : Narrows s (.refine s check) := by
  intro x p out h
  obtain ⟨v, hv, ha⟩ := Run.outcome_bind_eq_ok h
  rcases Callback.after_ok_iff.mp ha with ⟨rfl, rfl⟩ | ⟨value, a, rfl, _, rfl⟩
  · exact hv
  · exact hv

/-! ## What stands around a node -/

section Around
variable {s t : Schema}

theorem narrows_array (rules : ArrayRules) (h : Narrows s t) :
    Narrows (.array s rules) (.array t rules) := by
  intro x p out ht
  obtain ⟨items, rfl⟩ := Call.exists_items_of_ok ht
  obtain ⟨hr, o, ho, rfl⟩ := Call.array_ok_iff.mp ht
  -- The outputs of the new elements, asked for by the old ones.
  refine Call.array_ok_iff.mpr ⟨hr, fun d => o ⟨t, d.input, d.path⟩, ?_, ?_⟩
  · intro d hd
    obtain ⟨item, hm, rfl⟩ := List.mem_map.mp hd
    exact h _ _ _ (ho _ (List.mem_map_of_mem hm))
  · simp [Call.parts]

theorem validateFields_of_narrows {shape others : List (String × Schema)}
    {entries : List (String × Value)} {p : Path} {fields : List (String × Verdict)}
    (h : List.Forall₂ (Named Narrows) shape others)
    (hf : (validateFields others entries p).outcome = .ok fields)
    (ho : ∀ f ∈ fields, f.2.issues = []) :
    (validateFields shape entries p).outcome = .ok fields := by
  induction h generalizing fields with
  | nil => exact hf
  | @cons f g shape others hfg _ ih =>
    obtain ⟨name, s⟩ := f
    obtain ⟨_, t⟩ := g
    obtain ⟨rfl, hst⟩ := hfg
    obtain ⟨v, hv, hf⟩ := Run.outcome_bind_eq_ok hf
    obtain ⟨rest, hrest, hf⟩ := Run.outcome_bind_eq_ok hf
    cases hf
    -- A refused field may have other issues than before, so all are asked to be accepted.
    obtain ⟨out, rfl⟩ := Verdict.issues_eq_nil_iff.mp (ho _ List.mem_cons_self)
    have hs := hst _ _ _ hv
    have hi := ih hrest fun f hm => ho f (List.mem_cons_of_mem _ hm)
    rw [validateFields, Run.bind_of_ok hs, Run.bind_of_ok hi]
    rfl

theorem narrows_object {shape others : List (String × Schema)} (unknownKeys : UnknownKeys)
    (message : Option String) (h : List.Forall₂ (Named Narrows) shape others) :
    Narrows (.object shape unknownKeys message) (.object others unknownKeys message) := by
  intro x p out ht
  obtain ⟨entries, rfl⟩ := Call.exists_entries_of_ok ht
  obtain ⟨fields, hf, hv⟩ := Run.outcome_bind_eq_ok ht
  have hn : shape.map Prod.fst = others.map Prod.fst := (forall₂_named_iff.mp h).1
  have ho := (objectVerdict_ok_iff.mp (Except.ok.inj hv)).1
  have hs := validateFields_of_narrows h hf ho
  rw [validate, Run.bind_of_ok hs, hn]
  exact hv

theorem forall₂_narrows_field (before : List (String × Schema)) (name : String)
    (after : List (String × Schema)) (h : Narrows s t) :
    List.Forall₂ (Named Narrows) (before ++ (name, s) :: after) (before ++ (name, t) :: after) := by
  have hsame : ∀ shape : List (String × Schema), List.Forall₂ (Named Narrows) shape shape :=
    fun shape => List.forall₂_same.mpr fun f _ => ⟨rfl, .refl f.2⟩
  exact List.rel_append (hsame before) (.cons ⟨rfl, h⟩ (hsame after))

theorem narrows_optional (h : Narrows s t) : Narrows (.optional s) (.optional t) := by
  intro x p out ht
  cases x with
  | none => exact ht
  | some v => exact h _ _ _ ht

theorem narrows_withDefault (value : Value) (h : Narrows s t) :
    Narrows (.withDefault s value) (.withDefault t value) := by
  intro x p out ht
  cases x with
  | none => exact ht
  | some v => exact h _ _ _ ht

theorem narrows_nullable (h : Narrows s t) : Narrows (.nullable s) (.nullable t) := by
  intro x p out ht
  by_cases hx : x = some .null
  · rw [hx] at ht ⊢
    exact ht
  · rw [validate_nullable hx] at ht ⊢
    exact h _ _ _ ht

/-- A callback runs only on what is accepted, and there it is given the same value. -/
theorem outcome_after_of_narrows {α : Type} {callback : Callback α} {next : Value → α → Value}
    {x : Option Value} {p : Path} {out : Option Value} (h : Narrows s t)
    (ht : (t.validate x p >>= callback.after p next).outcome = .ok (.ok out)) :
    (s.validate x p >>= callback.after p next).outcome = .ok (.ok out) := by
  obtain ⟨v, hv, ha⟩ := Run.outcome_bind_eq_ok ht
  have hs : (s.validate x p).outcome = .ok v := by
    rcases Callback.after_ok_iff.mp ha with ⟨rfl, _⟩ | ⟨value, a, rfl, _, _⟩
    · exact h _ _ _ hv
    · exact h _ _ _ hv
  rw [Run.bind_of_ok hs]
  exact ha

end Around

/-! ## Steps and runs of tightening -/

def NoUnion : Schema → Prop
  | .union _ _ => False
  | _ => True

/-- One step: the whole tree accepts less. -/
theorem Tightens.narrows {s t : Schema} (h : Tightens s t) (hs : s.Every NoUnion) :
    Narrows s t := by
  induction h with
  | string rules constraint message => exact narrows_string rules constraint message
  | number rules constraint message => exact narrows_number rules constraint message
  | array element rules constraint message =>
    exact narrows_elementRules element rules constraint message
  | strict shape message => exact narrows_strict shape message
  | check s check => exact narrows_check s check
  | element rules _ ih => exact narrows_array rules (ih (hs.child List.mem_cons_self))
  | @field s t before name after unknownKeys message _ ih =>
    have hm : s ∈ children (.object (before ++ (name, s) :: after) unknownKeys message) := by
      simp [children]
    exact narrows_object unknownKeys message
      (forall₂_narrows_field before name after (ih (hs.child hm)))
  | option before after message _ _ => exact hs.self.elim
  | optional _ ih => exact narrows_optional (ih (hs.child List.mem_cons_self))
  | nullable _ ih => exact narrows_nullable (ih (hs.child List.mem_cons_self))
  | withDefault value _ ih => exact narrows_withDefault value (ih (hs.child List.mem_cons_self))
  | refine check _ ih | transform mapper _ ih =>
    have hn := ih (hs.child List.mem_cons_self)
    exact fun x p out ht => outcome_after_of_narrows hn ht
  | boxed _ ih =>
    have hn := ih (hs.child List.mem_cons_self)
    exact fun x p out ht => hn x p out ht

theorem Tightens.every_noUnion {s t : Schema} (h : Tightens s t) (hs : s.Every NoUnion) :
    t.Every NoUnion := by
  induction h with
  | string rules constraint message | number rules constraint message => exact .leaf trivial rfl
  | array element rules constraint message =>
    exact .wrap trivial rfl (hs.child List.mem_cons_self)
  | strict shape message => exact .node trivial fun t ht => hs.child ht
  | check s check => exact .wrap trivial rfl hs
  | @field s t before name after unknownKeys message _ ih =>
    refine .node trivial fun u hu => ?_
    obtain ⟨f, hf, rfl⟩ := List.mem_map.mp hu
    have hchild : ∀ g ∈ before ++ (name, s) :: after, g.2.Every NoUnion := fun g hg =>
      hs.child (List.mem_map_of_mem hg)
    simp only [List.mem_append, List.mem_cons] at hf hchild
    rcases hf with hf | rfl | hf
    · exact hchild f (.inl hf)
    · exact ih (hchild (name, s) (.inr (.inl rfl)))
    · exact hchild f (.inr (.inr hf))
  | option before after message _ _ => exact hs.self.elim
  | element _ _ ih | optional _ ih | nullable _ ih | withDefault _ _ ih | refine _ _ ih
  | transform _ _ ih | boxed _ ih => exact .wrap trivial rfl (ih (hs.child List.mem_cons_self))

theorem narrows_of_tightened {s t : Schema} (hs : s.Every NoUnion)
    (h : Relation.ReflTransGen Tightens s t) : Narrows s t ∧ t.Every NoUnion := by
  induction h with
  | refl => exact ⟨.refl s, hs⟩
  | tail _ hstep ih =>
    obtain ⟨hn, hu⟩ := ih
    exact ⟨hn.trans (hstep.narrows hu), hstep.every_noUnion hu⟩

/-- However often a schema without unions is tightened, and wherever in its tree: what the result
accepts, the schema accepts, and with the same output. -/
theorem tightened_accepts_less {s t : Schema} (hs : s.Every NoUnion)
    (h : Relation.ReflTransGen Tightens s t) {x : Option Value} {p : Path} {out : Option Value}
    (ht : (t.validate x p).outcome = .ok (.ok out)) :
    (s.validate x p).outcome = .ok (.ok out) := by
  obtain ⟨hn, _⟩ := narrows_of_tightened hs h
  exact hn x p out ht

def countItems : Mapper where
  name := "count"
  run
    | .array items => .accept (.int items.length)
    | _ => .fault Fault.wordless

def requireEven : Check :=
  .ofPredicate "even" (fun v => .accept (Stock.isEven v)) "must be even"

def loose : Schema :=
  .object
    [("age", .withDefault (.number .none) (.int 18)),
      ("tags", .transform (.array (.nullable (.string .none)) .none) countItems)]
    .strip none

def tight : Schema :=
  .object
    [("age", .refine (.withDefault (.number (.push .none .nonnegative (some "too young"))) (.int 18))
        requireEven),
      ("tags", .transform (.array (.nullable (.string (.push .none (.max 3) none)))
        (.push .none (.min 1) none)) countItems)]
    .strict none

theorem noUnion_loose : loose.Every NoUnion := by
  have hage : Every NoUnion (.withDefault (.number .none) (.int 18)) :=
    .wrap trivial rfl (.leaf trivial rfl)
  have htag : Every NoUnion (.array (.nullable (.string .none)) .none) :=
    .wrap trivial rfl (.wrap trivial rfl (.leaf trivial rfl))
  refine .node trivial ?_
  exact List.forall_mem_cons.mpr ⟨hage, List.forall_mem_singleton.mpr (.wrap trivial rfl htag)⟩

theorem tightened_loose : Relation.ReflTransGen Tightens loose tight := by
  refine .head (.field [] "age" _ .strip none
    (.withDefault _ (.number .none .nonnegative (some "too young")))) ?_
  refine .head (.field [] "age" _ .strip none (.check _ requireEven)) ?_
  refine .head (.field [_] "tags" [] .strip none (.transform _
    (.element .none (.nullable (.string .none (.max 3) none))))) ?_
  refine .head (.field [_] "tags" [] .strip none (.transform _ (.array _ .none (.min 1) none))) ?_
  exact .single (.strict _ none)

theorem tightened_accepts_less_loose :
    loose.Every NoUnion ∧ Relation.ReflTransGen Tightens loose tight ∧
      (tight.validate (some (.object [("tags", .array [.null, .string "ab"])])) []).outcome =
        .ok (.ok (some (.object [("age", .int 18), ("tags", .int 2)]))) ∧
      (loose.validate (some (.object [("tags", .array [.null, .string "ab"])])) []).outcome =
        .ok (.ok (some (.object [("age", .int 18), ("tags", .int 2)]))) := by
  have h : (tight.validate (some (.object [("tags", .array [.null, .string "ab"])])) []).outcome =
    .ok (.ok (some (.object [("age", .int 18), ("tags", .int 2)]))) := by rfl
  exact ⟨noUnion_loose, tightened_loose, h,
    tightened_accepts_less noUnion_loose tightened_loose h⟩

/-- A tightened option of a union makes way for another one. -/
example :
    (validate (.union [.string .none, .transform .any ⟨"null", fun _ => .accept .null⟩] none)
        (some (.string "a")) []).outcome = .ok (.ok (some (.string "a"))) ∧
      (validate (.union [.string (.push .none (.min 2) none),
          .transform .any ⟨"null", fun _ => .accept .null⟩] none)
        (some (.string "a")) []).outcome = .ok (.ok (some .null)) := ⟨rfl, rfl⟩

end Schema
end Schemata
