import Mathlib.Data.List.Basic
import Mathlib.Data.List.Perm.Basic
import Schemata.Proofs.Reach
import Schemata.Schema.Build

/-! # Unions as ordered choice

A union comes to what its first option comes to that does not refuse, be it an output or a fault,
and nothing after that option is tried. As a refusal of an option leaves nothing but its trace, an
option that is itself a union can be replaced by its own options.
-/
namespace Schemata

namespace Schema
variable {x : Option Value} {p : Path}

def Refuses (s : Schema) (x : Option Value) (p : Path) : Prop :=
  ∃ is, (s.validate x p).outcome = .ok (.error is)

/-- What some options log that are tried one after the other. -/
def trials (options : List Schema) (x : Option Value) (p : Path) : List Event :=
  options.flatMap fun o => (o.validate x p).log

/-- A schema that reports under a label when it is tried. -/
def marked (label : Schema → String) (s : Schema) : Schema := watched (label s) s s.typeName

theorem validate_marked (label : Schema → String) (s : Schema) (x : Option Value) (p : Path) :
    (s.marked label).validate x p =
      ⟨.visited (label s) p x :: (s.validate x p).log, (s.validate x p).outcome⟩ :=
  Run.bind_of_ok rfl

theorem refuses_marked_iff {label : Schema → String} {s : Schema} :
    (s.marked label).Refuses x p ↔ s.Refuses x p := by
  rw [Refuses, validate_marked]
  rfl

theorem forall_refuses_marked {label : Schema → String} {options : List Schema}
    (h : ∀ o ∈ options, o.Refuses x p) : ∀ o ∈ options.map (marked label), o.Refuses x p :=
  List.forall_mem_map.mpr fun o ho => refuses_marked_iff.mpr (h o ho)

theorem trials_marked (label : Schema → String) (options : List Schema) (x : Option Value)
    (p : Path) : trials (options.map (marked label)) x p =
      options.flatMap fun o => .visited (label o) p x :: (o.validate x p).log := by
  simp only [trials, List.flatMap_map, validate_marked]

/-! ## The option that decides -/

theorem firstAccepted_of_all_refused {options : List Schema} (h : ∀ o ∈ options, o.Refuses x p) :
    firstAccepted options x p = ⟨trials options x p, .ok none⟩ := by
  have hf := Call.firstAccepted_of_refused [] h
  rw [List.append_nil] at hf
  rw [hf]
  simp [firstAccepted, trials]

theorem validate_union_of_refused {options : List Schema} (h : ∀ o ∈ options, o.Refuses x p)
    (message : Option String) :
    (union options message).validate x p =
      ⟨trials options x p, .ok (unionRefusal message x p)⟩ := by
  have hf := firstAccepted_of_all_refused h
  have hr := Call.run_union_of_ok message (congrArg Run.outcome hf)
  rw [hf] at hr
  exact hr

theorem validate_union_of_decided {before : List Schema} {o : Schema}
    (hb : ∀ b ∈ before, b.Refuses x p) (ho : ¬ o.Refuses x p) (after : List Schema)
    (message : Option String) :
    (union (before ++ o :: after) message).validate x p =
      ⟨trials (before ++ [o]) x p, (o.validate x p).outcome⟩ := by
  have hf := Call.firstAccepted_of_refused (o :: after) hb
  have ht : trials (before ++ [o]) x p = trials before x p ++ (o.validate x p).log := by
    simp [trials]
  match hr : (o.validate x p).outcome with
  | .error e =>
    rw [Call.firstAccepted_of_fault after hr] at hf
    have hu := Call.run_union_of_fault message (congrArg Run.outcome hf)
    rw [hf] at hu
    rw [ht]
    exact hu
  | .ok (.ok out) =>
    have hd : firstAccepted (o :: after) x p = ⟨(o.validate x p).log, .ok (some out)⟩ := by
      rw [firstAccepted, Run.bind_of_ok hr]
      simp
    rw [hd] at hf
    have hu := Call.run_union_of_ok message (congrArg Run.outcome hf)
    rw [hf] at hu
    rw [ht]
    exact hu
  | .ok (.error is) => exact absurd ⟨is, hr⟩ ho

theorem decided_or_refused (options : List Schema) (x : Option Value) (p : Path) :
    (∃ before o after, options = before ++ o :: after ∧ (∀ b ∈ before, b.Refuses x p) ∧
      ¬ o.Refuses x p) ∨ ∀ o ∈ options, o.Refuses x p := by
  rcases Call.firstAccepted_cases options x p with ⟨before, o, after, rfl, hb, hd⟩ | ⟨h, _⟩
  · refine .inl ⟨before, o, after, rfl, hb, fun ⟨is, hr⟩ => ?_⟩
    rcases hd with ⟨out, ho, _⟩ | ⟨e, ho, _⟩
    · cases hr.symm.trans ho
    · cases hr.symm.trans ho
  · exact .inr h

/-! ## Splicing -/

theorem firstAccepted_append (before after : List Schema) (x : Option Value) (p : Path) :
    firstAccepted (before ++ after) x p = firstAccepted before x p >>= fun r =>
      r.elim (firstAccepted after x p) fun out => pure (some out) := by
  induction before with
  | nil => simp [firstAccepted]
  | cons o before ih =>
    rw [List.cons_append, firstAccepted, firstAccepted, bind_assoc]
    congr 1
    funext v
    cases v with
    | ok out => simp
    | error is => exact ih

theorem validate_union_eq (options : List Schema) (message : Option String) (x : Option Value)
    (p : Path) :
    (union options message).validate x p = firstAccepted options x p >>= fun r =>
      pure (r.elim (unionRefusal message x p) .ok) := by
  rw [validate]
  congr 1
  funext r
  cases r <;> rfl

/-- A union has options, in whatever boxes it is. -/
inductive HasOptions : Schema → List Schema → Prop
  | union (options : List Schema) (message : Option String) :
    HasOptions (.union options message) options
  | boxed {s : Schema} {options : List Schema} (h : HasOptions s options) :
    HasOptions (.boxed s) options

theorem HasOptions.exists_validate_eq {s : Schema} {inner : List Schema}
    (h : s.HasOptions inner) :
    ∃ message, ∀ x p, s.validate x p = (Schema.union inner message).validate x p := by
  induction h with
  | union options message => exact ⟨message, fun x p => rfl⟩
  | boxed _ ih => exact ih

/-- A union that is tried first among some options gives way to its own options. -/
theorem firstAccepted_cons_of_hasOptions {s : Schema} {inner : List Schema}
    (h : s.HasOptions inner) (after : List Schema) (x : Option Value) (p : Path) :
    firstAccepted (s :: after) x p = firstAccepted (inner ++ after) x p := by
  obtain ⟨message, hs⟩ := h.exists_validate_eq
  rw [firstAccepted, hs, validate_union_eq, bind_assoc, firstAccepted_append]
  -- The refusal of the inner union, whatever its message, only lets the options after it be tried.
  congr 1
  funext r
  cases r <;> simp [unionRefusal]

/-- One option that is itself a union replaced by its options, in a union or in an option of it that
is a union. -/
inductive Splices : Schema → Schema → Prop
  | option {s : Schema} {inner : List Schema} (before after : List Schema)
    (message : Option String) (h : s.HasOptions inner) :
    Splices (.union (before ++ s :: after) message) (.union (before ++ inner ++ after) message)
  | within {s t : Schema} (before after : List Schema) (message : Option String)
    (h : Splices s t) :
    Splices (.union (before ++ s :: after) message) (.union (before ++ t :: after) message)
  | boxed {s t : Schema} (h : Splices s t) : Splices (.boxed s) (.boxed t)

mutual
/-- A schema whose options, and the options of unions among them, report when they are tried. -/
def watchLeaves (label : Schema → String) : Schema → Schema
  | .union options message => .union (watchOptions label options) message
  | .boxed inner => .boxed (watchLeaves label inner)
  | s => s.marked label

def watchOptions (label : Schema → String) : List Schema → List Schema
  | [] => []
  | s :: rest => watchLeaves label s :: watchOptions label rest
end

theorem watchOptions_append (label : Schema → String) (before after : List Schema) :
    watchOptions label (before ++ after) =
      watchOptions label before ++ watchOptions label after := by
  induction before with
  | nil => rfl
  | cons s before ih => rw [List.cons_append, watchOptions, watchOptions, ih, List.cons_append]

theorem HasOptions.watchLeaves {s : Schema} {inner : List Schema} (h : s.HasOptions inner)
    (label : Schema → String) : (s.watchLeaves label).HasOptions (watchOptions label inner) := by
  induction h with
  | union options message => exact .union _ message
  | boxed _ ih => exact .boxed ih

theorem Splices.watchLeaves {s t : Schema} (h : Splices s t) (label : Schema → String) :
    Splices (s.watchLeaves label) (t.watchLeaves label) := by
  induction h with
  | @option s inner before after message h =>
    simp only [Schema.watchLeaves, watchOptions_append, watchOptions]
    exact .option _ _ message (h.watchLeaves label)
  | within before after message _ ih =>
    simp only [Schema.watchLeaves, watchOptions_append, watchOptions]
    exact .within _ _ message ih
  | boxed _ ih => exact .boxed ih

theorem Splices.validate_eq {s t : Schema} (h : Splices s t) (x : Option Value) (p : Path) :
    s.validate x p = t.validate x p := by
  induction h with
  | option before after message h =>
    rw [validate_union_eq, validate_union_eq, List.append_assoc, firstAccepted_append,
      firstAccepted_append before, firstAccepted_cons_of_hasOptions h]
  | within before after message _ ih =>
    rw [validate_union_eq, validate_union_eq, firstAccepted_append, firstAccepted_append before,
      firstAccepted, firstAccepted, ih]
  | boxed _ ih => exact ih

theorem validate_eq_of_spliced {s t : Schema} (h : Relation.ReflTransGen Splices s t)
    (x : Option Value) (p : Path) : s.validate x p = t.validate x p := by
  induction h with
  | refl => rfl
  | tail _ hstep ih => exact ih.trans (hstep.validate_eq x p)

/-! ## Other orders -/

variable {options others : List Schema} {message : Option String}

theorem union_refused_iff {is : Issues} :
    ((union options message).validate x p).outcome = .ok (.error is) ↔
      (∀ o ∈ options, o.Refuses x p) ∧ unionRefusal message x p = .error is := by
  rcases decided_or_refused options x p with ⟨before, o, after, rfl, hb, ho⟩ | h
  · rw [validate_union_of_decided hb ho after message]
    refine ⟨fun hr => absurd ⟨is, hr⟩ ho, fun ⟨hr, _⟩ => absurd (hr o (by simp)) ho⟩
  · rw [validate_union_of_refused h message]
    exact ⟨fun hr => ⟨h, Except.ok.inj hr⟩, fun ⟨_, hr⟩ => congrArg Except.ok hr⟩

theorem union_accepts_iff (hv : ∀ o ∈ options, ∃ v, (o.validate x p).outcome = .ok v) :
    (∃ out, ((union options message).validate x p).outcome = .ok (.ok out)) ↔
      ¬ ∀ o ∈ options, o.Refuses x p := by
  rcases decided_or_refused options x p with ⟨before, o, after, rfl, hb, ho⟩ | h
  · rw [validate_union_of_decided hb ho after message]
    refine ⟨fun _ hr => ho (hr o (by simp)), fun _ => ?_⟩
    obtain ⟨v, hov⟩ := hv o (by simp)
    cases v with
    | ok out => exact ⟨out, hov⟩
    | error is => exact absurd ⟨is, hov⟩ ho
  · rw [validate_union_of_refused h message]
    exact ⟨fun ⟨_, hr⟩ => (by cases hr), fun hr => absurd h hr⟩

/-- The order of options that do not fault decides neither acceptance nor the refusal. -/
theorem union_perm (hp : options.Perm others)
    (hv : ∀ o ∈ options, ∃ v, (o.validate x p).outcome = .ok v) :
    ((∃ out, ((union options message).validate x p).outcome = .ok (.ok out)) ↔
      ∃ out, ((union others message).validate x p).outcome = .ok (.ok out)) ∧
    ∀ is, ((union options message).validate x p).outcome = .ok (.error is) ↔
      ((union others message).validate x p).outcome = .ok (.error is) := by
  have hv' : ∀ o ∈ others, ∃ v, (o.validate x p).outcome = .ok v :=
    fun o ho => hv o (hp.mem_iff.mpr ho)
  have hr : (∀ o ∈ options, o.Refuses x p) ↔ ∀ o ∈ others, o.Refuses x p :=
    ⟨fun h o ho => h o (hp.mem_iff.mpr ho), fun h o ho => h o (hp.mem_iff.mp ho)⟩
  constructor
  · rw [union_accepts_iff hv, union_accepts_iff hv', hr]
  · intro is
    rw [union_refused_iff, union_refused_iff, hr]

/-- A union on an input as a choice among its options in their order. -/
structure OrderedChoice (options : List Schema) (message : Option String) (x : Option Value)
    (p : Path) : Prop where
  decided_or_refused : (∃ before o after, options = before ++ o :: after ∧
      (∀ b ∈ before, b.Refuses x p) ∧
      ((∃ out, (o.validate x p).outcome = .ok (.ok out)) ∨
        ∃ e, (o.validate x p).outcome = .error e)) ∨
    ∀ o ∈ options, o.Refuses x p
  decided : ∀ before o after, options = before ++ o :: after → (∀ b ∈ before, b.Refuses x p) →
    ¬ o.Refuses x p →
      (union options message).validate x p =
        ⟨(before ++ [o]).flatMap fun b => (b.validate x p).log, (o.validate x p).outcome⟩ ∧
      ∀ label, (union (options.map (marked label)) message).validate x p =
        ⟨(before ++ [o]).flatMap fun b => .visited (label b) p x :: (b.validate x p).log,
          (o.validate x p).outcome⟩
  refused : (∀ o ∈ options, o.Refuses x p) →
    (union options message).validate x p =
      ⟨options.flatMap fun o => (o.validate x p).log,
        .ok (.error (.single ⟨p, message.getD "Invalid input", .invalidUnion,
          some (Kind.of x).name, none⟩))⟩ ∧
    ∀ label, ((union (options.map (marked label)) message).validate x p).log =
      options.flatMap fun o => .visited (label o) p x :: (o.validate x p).log
  spliced : ∀ t, Relation.ReflTransGen Splices (.union options message) t →
    t.validate x p = (union options message).validate x p ∧
    ∀ label, (t.watchLeaves label).validate x p =
      ((union options message).watchLeaves label).validate x p
  reordered : ∀ others, options.Perm others →
    (∀ o ∈ options, ∃ v, (o.validate x p).outcome = .ok v) →
      ((∃ out, ((union options message).validate x p).outcome = .ok (.ok out)) ↔
        ∃ out, ((union others message).validate x p).outcome = .ok (.ok out)) ∧
      ∀ is, ((union options message).validate x p).outcome = .ok (.error is) ↔
        ((union others message).validate x p).outcome = .ok (.error is)

end Schema

/-- A union on an input, present or absent. Either a first option does not refuse, and the union
comes to the output or the fault of that one, or all options refuse, and it has the one refusal of
its own. What is tried is the options up to that one, or all, in their order, each once. Splicing
options that are unions, however often and however deep, changes nothing, nor which leaves are tried
in which order. Where no option faults, their order decides neither whether the union accepts nor
how it refuses. -/
theorem union_chooses_in_order (options : List Schema) (message : Option String)
    (x : Option Value) (p : Path) : Schema.OrderedChoice options message x p := by
  constructor
  case decided_or_refused =>
    rcases Call.firstAccepted_cases options x p with ⟨before, o, after, rfl, hb, hd⟩ | ⟨h, _⟩
    · refine .inl ⟨before, o, after, rfl, hb, ?_⟩
      exact hd.imp (fun ⟨out, ho, _⟩ => ⟨out, ho⟩) fun ⟨e, ho, _⟩ => ⟨e, ho⟩
    · exact .inr h
  case decided =>
    rintro before o after rfl hb ho
    refine ⟨Schema.validate_union_of_decided hb ho after message, fun label => ?_⟩
    have hr : ∀ b ∈ before.map (Schema.marked label), b.Refuses x p :=
      Schema.forall_refuses_marked hb
    have hd : ¬ (o.marked label).Refuses x p := mt Schema.refuses_marked_iff.mp ho
    rw [List.map_append, List.map_cons, Schema.validate_union_of_decided hr hd,
      ← Schema.trials_marked, Schema.validate_marked, List.map_append, List.map_singleton]
  case refused =>
    intro h
    refine ⟨Schema.validate_union_of_refused h message, fun label => ?_⟩
    have hr : ∀ o ∈ options.map (Schema.marked label), o.Refuses x p :=
      Schema.forall_refuses_marked h
    rw [Schema.validate_union_of_refused hr, Schema.trials_marked]
  case spliced =>
    intro t ht
    refine ⟨(Schema.validate_eq_of_spliced ht x p).symm, fun label => ?_⟩
    have hw := ht.lift (Schema.watchLeaves label) fun _ _ h => h.watchLeaves label
    exact (Schema.validate_eq_of_spliced hw x p).symm
  case reordered => exact fun others hp hv => Schema.union_perm hp hv

/-- A custom schema that refuses what is there and faults on null. -/
def nullAverse : Schema := .custom "averse" fun input path =>
  match input with
  | some .null => .fault Fault.wordless
  | _ => pure (.error (.single (.custom path "averse")))

/-- Unions in a union, one of them in a box and with a message of its own. -/
def nestedOptions : List Schema :=
  [.anyBoolean, .boxed (.union [.anyNumber, .union [.anyString, nullAverse] none] (some "inner")),
    .null]

theorem splices_nestedOptions : Relation.ReflTransGen Schema.Splices
    (.union nestedOptions (some "outer"))
    (.union [.anyBoolean, .anyNumber, .anyString, nullAverse, .null] (some "outer")) := by
  have hinner : Schema.Splices
      (.union [.anyNumber, .union [.anyString, nullAverse] none] (some "inner"))
      (.union [.anyNumber, .anyString, nullAverse] (some "inner")) :=
    .option [.anyNumber] [] _ (.union _ none)
  have hstep : Schema.Splices (.union nestedOptions (some "outer"))
      (.union [.anyBoolean, .boxed (.union [.anyNumber, .anyString, nullAverse] (some "inner")),
        .null] (some "outer")) := .within [.anyBoolean] [.null] _ (.boxed hinner)
  exact .tail (.single hstep) (.option [.anyBoolean] [.null] _ (.boxed (.union _ _)))

/-- A string is accepted before the option that can fault, null faults there, although a later
option would accept it, and an absent input is refused by all. -/
theorem union_chooses_in_order_nestedOptions :
    (∀ o ∈ nestedOptions, ∃ v, (o.validate (some (.string "x")) []).outcome = .ok v) ∧
      (∃ out, ((Schema.union nestedOptions.reverse (some "outer")).validate (some (.string "x"))
        []).outcome = .ok (.ok out)) ∧
      ((Schema.union [.anyBoolean, .anyNumber, .anyString, nullAverse, .null]
          (some "outer")).watchLeaves Schema.typeName).validate (some (.string "x")) [] =
        ⟨[.visited "boolean" [] (some (.string "x")), .visited "number" [] (some (.string "x")),
          .visited "string" [] (some (.string "x"))], .ok (.ok (some (.string "x")))⟩ ∧
      ((Schema.union nestedOptions (some "outer")).validate (some .null) []).outcome =
        .error (.quiet .wordless) ∧
      (Schema.union nestedOptions (some "outer")).validate none [] =
        ⟨[], .ok (.error (.single ⟨[], "outer", .invalidUnion, some "undefined", none⟩))⟩ := by
  have hx := union_chooses_in_order nestedOptions (some "outer") (some (.string "x")) []
  have hnull := union_chooses_in_order nestedOptions (some "outer") (some .null) []
  have habsent := union_chooses_in_order nestedOptions (some "outer") none []
  have hverdicts : ∀ o ∈ nestedOptions,
      ∃ v, (o.validate (some (.string "x")) []).outcome = .ok v :=
    List.forall_mem_cons.mpr ⟨⟨_, rfl⟩, List.forall_mem_cons.mpr ⟨⟨_, rfl⟩,
      List.forall_mem_singleton.mpr ⟨_, rfl⟩⟩⟩
  have hrefused : ∀ o ∈ nestedOptions, o.Refuses none [] :=
    List.forall_mem_cons.mpr ⟨⟨_, rfl⟩, List.forall_mem_cons.mpr ⟨⟨_, rfl⟩,
      List.forall_mem_singleton.mpr ⟨_, rfl⟩⟩⟩
  have hboolean : ∀ b ∈ [Schema.anyBoolean], b.Refuses (some .null) [] :=
    List.forall_mem_singleton.mpr ⟨_, rfl⟩
  refine ⟨hverdicts, ?_, ?_, ?_, (habsent.refused hrefused).1⟩
  · have hreversed := hx.reordered _ (List.reverse_perm nestedOptions).symm hverdicts
    exact hreversed.1.mp ⟨_, rfl⟩
  · rw [(hx.spliced _ splices_nestedOptions).2 Schema.typeName]
    rfl
  · have hfault := hnull.decided [.anyBoolean] _ _ rfl hboolean fun ⟨_, hr⟩ => by cases hr
    exact congrArg Run.outcome hfault.1

end Schemata
