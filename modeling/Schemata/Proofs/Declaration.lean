import Schemata.Proofs.Output
import Schemata.Proofs.Reordering

/-! # Orders that decide nothing

Neither the order in which the fields of object schemas are declared nor that of the entries of the
objects in an input is seen by validation, where no callback looks at values. Such inputs are
accepted alike, with reordered outputs, or refused for the same reasons in some order. The induction
is over the schema, for both runs at once: a field finds a reordered entry under its name, so the
verdicts on the fields match, and a union asks its options in the same order and stops at the same
one.
-/
namespace Schemata

/-! ## Schemas declared in another order -/

namespace Schema

/-- A node that runs nothing of a caller's. -/
def Uncalled : Schema → Prop
  | .custom _ _ | .refine _ _ | .transform _ _ => False
  | _ => True

/-- The same schema but for the order in which the fields of its objects are declared, where it has
no callbacks and no custom nodes. The fields of an object are first put into another order, `mid`,
and then hold schemas that are declared in another order. -/
inductive Redeclared : Schema → Schema → Prop
  | leaf {s : Schema} (h : s.isLeaf = true) : Redeclared s s
  | array {element other : Schema} (rules : ArrayRules) (h : Redeclared element other) :
    Redeclared (.array element rules) (.array other rules)
  | object {shape mid others : List (String × Schema)} (unknownKeys : UnknownKeys)
    (message : Option String) (perm : shape.Perm mid)
    (names : mid.map Prod.fst = others.map Prod.fst)
    (each : ∀ f g, (f, g) ∈ mid.zip others → Redeclared f.2 g.2) :
    Redeclared (.object shape unknownKeys message) (.object others unknownKeys message)
  | union {options others : List Schema} (message : Option String)
    (length : options.length = others.length)
    (each : ∀ s t, (s, t) ∈ options.zip others → Redeclared s t) :
    Redeclared (.union options message) (.union others message)
  | optional {s t : Schema} (h : Redeclared s t) : Redeclared (.optional s) (.optional t)
  | nullable {s t : Schema} (h : Redeclared s t) : Redeclared (.nullable s) (.nullable t)
  | withDefault {s t : Schema} (value : Value) (h : Redeclared s t) :
    Redeclared (.withDefault s value) (.withDefault t value)
  | boxed {s t : Schema} (h : Redeclared s t) : Redeclared (.boxed s) (.boxed t)

namespace Redeclared

theorem object_of_matches {shape others : List (String × Schema)} (unknownKeys : UnknownKeys)
    (message : Option String) (h : Matches (Named Redeclared) shape others) :
    Redeclared (.object shape unknownKeys message) (.object others unknownKeys message) := by
  obtain ⟨mid, hp, hm⟩ := h
  obtain ⟨hn, he⟩ := forall₂_named_iff.mp hm
  exact .object unknownKeys message hp hn he

theorem union_of_forall₂ {options others : List Schema} (message : Option String)
    (h : List.Forall₂ Redeclared options others) :
    Redeclared (.union options message) (.union others message) := by
  obtain ⟨hl, he⟩ := List.forall₂_iff_zip.mp h
  exact .union message hl fun s t hm => he hm

theorem refl_of_uncalled {s : Schema} (hs : s.Every Uncalled) : Redeclared s s := by
  induction hs with
  | @node s here below ih =>
    cases s with
    | custom name run | refine inner check | transform inner mapper => exact here.elim
    | array element rules => exact .array rules (ih element List.mem_cons_self)
    | object shape unknownKeys message =>
      have hfields : List.Forall₂ (Named Redeclared) shape shape :=
        List.forall₂_same.mpr fun f hf => ⟨rfl, ih f.2 (List.mem_map_of_mem hf)⟩
      exact object_of_matches unknownKeys message (.of_forall₂ hfields)
    | union options message => exact union_of_forall₂ message (List.forall₂_same.mpr ih)
    | optional inner => exact .optional (ih inner List.mem_cons_self)
    | nullable inner => exact .nullable (ih inner List.mem_cons_self)
    | withDefault inner value => exact .withDefault value (ih inner List.mem_cons_self)
    | boxed inner => exact .boxed (ih inner List.mem_cons_self)
    | _ => exact .leaf rfl

end Redeclared

end Schema

/-! ## Runs that meet -/

namespace Run
variable {α β γ δ : Type} {S : γ → δ → Prop} {Q : α → β → Prop}

/-- Both runs end, in related results. -/
def Meets (S : γ → δ → Prop) (x : Run γ) (y : Run δ) : Prop :=
  ∃ r t, x.outcome = .ok r ∧ y.outcome = .ok t ∧ S r t

theorem Meets.pure {r : γ} {t : δ} (h : S r t) : Meets S (Pure.pure r) (Pure.pure t) :=
  ⟨r, t, rfl, rfl, h⟩

theorem Meets.bind {T : α → β → Prop} {x : Run γ} {y : Run δ} {f : γ → Run α} {g : δ → Run β}
    (h : Meets S x y) (hfg : ∀ r t, S r t → Meets T (f r) (g t)) :
    Meets T (x >>= f) (y >>= g) := by
  obtain ⟨r, t, hx, hy, hrt⟩ := h
  rw [bind_of_ok hx, bind_of_ok hy]
  exact hfg r t hrt

theorem exists_results_of_meets [Nonempty γ] [Nonempty δ] {f : α → Run γ} {g : β → Run δ}
    {l : List α} {m : List β} (h : List.Forall₂ (fun a b => Q a b ∧ Meets S (f a) (g b)) l m) :
    ∃ (r : α → γ) (t : β → δ), (∀ a ∈ l, (f a).outcome = .ok (r a)) ∧
      (∀ b ∈ m, (g b).outcome = .ok (t b)) ∧
      List.Forall₂ (fun a b => Q a b ∧ S (r a) (t b)) l m := by
  have hm := Matches.of_forall₂ h
  have hf : ∀ a ∈ l, ∃ r, (f a).outcome = .ok r := by
    intro a ha
    obtain ⟨_, _, _, r, _, hr, _⟩ := hm.exists_right ha
    exact ⟨r, hr⟩
  have hg : ∀ b ∈ m, ∃ t, (g b).outcome = .ok t := by
    intro b hb
    obtain ⟨_, _, _, _, t, _, ht, _⟩ := hm.exists_left hb
    exact ⟨t, ht⟩
  obtain ⟨r, hr⟩ := exists_results hf
  obtain ⟨t, ht⟩ := exists_results hg
  refine ⟨r, t, hr, ht, ?_⟩
  obtain ⟨hl, h⟩ := List.forall₂_iff_zip.mp h
  refine List.forall₂_iff_zip.mpr ⟨hl, fun {a b} hm => ?_⟩
  obtain ⟨hq, r', t', hr', ht', hs⟩ := h hm
  obtain ⟨ha, hb⟩ := List.of_mem_zip hm
  obtain rfl := Except.ok.inj ((hr a ha).symm.trans hr')
  obtain rfl := Except.ok.inj ((ht b hb).symm.trans ht')
  exact ⟨hq, hs⟩

end Run

/-! ## Verdicts that are alike -/

/-- Where an issue is, of what kind it is, and what was wanted there. -/
def Issue.demand (i : Issue) : Path × IssueCode × Option String := (i.path, i.code, i.expected)

namespace Verdict
variable {v w : Verdict}

/-- Both accept, with reordered outputs, or both refuse for the same reasons in some order. -/
def Alike : Verdict → Verdict → Prop
  | .ok out, .ok other => Option.Rel Value.Reordered out other
  | .error is, .error js => (is.toList.map Issue.demand).Perm (js.toList.map Issue.demand)
  | _, _ => False

theorem Alike.refl (v : Verdict) : Alike v v := by
  match v with
  | .ok none => exact Option.Rel.none
  | .ok (some v) => exact Option.Rel.some (.refl v)
  | .error is => exact List.Perm.refl _

theorem Alike.cases (h : Alike v w) :
    (∃ out out', v = .ok out ∧ w = .ok out' ∧ Option.Rel Value.Reordered out out') ∨
      ∃ is js, v = .error is ∧ w = .error js ∧
        (is.toList.map Issue.demand).Perm (js.toList.map Issue.demand) := by
  cases v <;> cases w
  · exact .inr ⟨_, _, rfl, rfl, h⟩
  · exact h.elim
  · exact h.elim
  · exact .inl ⟨_, _, rfl, rfl, h⟩

theorem alike_single {i j : Issue} {d : Path × IssueCode × Option String} (hi : i.demand = d)
    (hj : j.demand = d) : Alike (.error (.single i)) (.error (.single j)) := by
  show List.Perm [i.demand] [j.demand]
  rw [hi, hj]

theorem Alike.value? (h : Alike v w) : Option.Rel Value.Reordered v.value? w.value? := by
  rcases h.cases with ⟨out, out', rfl, rfl, hout⟩ | ⟨is, js, rfl, rfl, _⟩
  · exact hout
  · exact .none

theorem Alike.issues (h : Alike v w) :
    (v.issues.map Issue.demand).Perm (w.issues.map Issue.demand) := by
  rcases h.cases with ⟨out, out', rfl, rfl, _⟩ | ⟨is, js, rfl, rfl, hp⟩
  · exact .refl _
  · exact hp

theorem alike_conclude {a b : Value} {is js : List Issue} (h : a.Reordered b)
    (hi : (is.map Issue.demand).Perm (js.map Issue.demand)) :
    Alike (conclude a is) (conclude b js) := by
  have hl : is.length = js.length := by simpa using hi.length_eq
  -- One accepts just when the other does, as they have equally many issues.
  match is, js with
  | [], [] => exact .some h
  | i :: is, j :: js => exact hi

theorem alike_array {rules : ArrayRules} {items others : List Value} {p : Path}
    {vs ws : List Verdict} (h : List.Forall₂ Value.Reordered items others)
    (hd : ∀ v ∈ items, v.Distinct) (hvw : List.Forall₂ Alike vs ws) :
    Alike (ArrayRules.verdict rules items p vs) (ArrayRules.verdict rules others p ws) := by
  have hrules : rules.issues (·.violation items) p = rules.issues (·.violation others) p :=
    congrArg (rules.issues · p) (funext fun c => c.violation_reordered h hd)
  apply alike_conclude
  · apply Value.Reordered.array_of_forall₂
    exact List.rel_map (fun {v w} h => Value.Reordered.getD h.value? .null) hvw
  · rw [hrules, List.map_append, List.map_append, List.map_flatMap, List.map_flatMap]
    exact ((Matches.of_forall₂ hvw).flatMap_perm fun v w h => h.issues).append_left _

theorem alike_object {unknownKeys : UnknownKeys} {unknown unknown' : List (String × Value)}
    {p : Path} {fields fields' : List (String × Verdict)}
    (hu : Matches (Named Value.Reordered) unknown unknown')
    (hf : Matches (Named Alike) fields fields') :
    Alike (Schema.objectVerdict unknownKeys unknown p fields)
      (Schema.objectVerdict unknownKeys unknown' p fields') := by
  have hout : Matches (Named Value.Reordered)
      (fields.filterMap fun f => f.2.value?.map fun v => (f.1, v))
      (fields'.filterMap fun f => f.2.value?.map fun v => (f.1, v)) :=
    hf.filterMap fun f g ⟨hn, hfg⟩ => rel_map_named hn hfg.value?
  have hissues := hf.flatMap_perm (f := fun f => f.2.issues.map Issue.demand)
    (g := fun f => f.2.issues.map Issue.demand) fun f g h => h.2.issues
  have hunknown := hu.map_perm (f := fun e => (Schema.unrecognized p e.1).demand)
    (g := fun e => (Schema.unrecognized p e.1).demand) fun e f h => by
      simp only [Issue.demand, Schema.unrecognized]
  cases unknownKeys with
  | strip =>
    apply alike_conclude (Value.Reordered.object_of_matches hout)
    simpa only [List.map_flatMap] using hissues
  | passthrough =>
    apply alike_conclude (Value.Reordered.object_of_matches (hout.append hu))
    simpa only [List.map_flatMap] using hissues
  | strict =>
    apply alike_conclude (Value.Reordered.object_of_matches hout)
    simpa only [List.map_append, List.map_flatMap, List.map_map, Function.comp_def] using
      hissues.append hunknown

end Verdict

/-! ## One node -/

namespace Schema
variable {s t : Schema} {x y : Option Value} {p : Path}

/-- Absent inputs, or present ones that differ in order only, where no name is written twice. -/
abbrev Reordering : Option Value → Option Value → Prop :=
  Option.Rel fun v w => v.Distinct ∧ v.Reordered w

theorem Reordering.of_array {items : List Value} (h : Reordering (some (.array items)) y) :
    ∃ others, y = some (.array others) ∧
      List.Forall₂ (fun v w => v.Distinct ∧ v.Reordered w) items others := by
  cases h with
  | some hvw =>
    obtain ⟨others, rfl, hi⟩ := hvw.2.forall₂_of_array
    cases hvw.1 with
    | array hd => exact ⟨others, rfl, (List.forall₂_and_left items others).mpr ⟨hd, hi⟩⟩

theorem Reordering.of_object {entries : List (String × Value)}
    (h : Reordering (some (.object entries)) y) :
    ∃ members, y = some (.object members) ∧ Matches (Named Value.Reordered) entries members ∧
      ∀ name, Reordering (entries.lookup name) (members.lookup name) := by
  cases h with
  | some hvw =>
    obtain ⟨members, rfl, hm⟩ := hvw.2.matches_of_object
    cases hvw.1 with
    | object hn hd =>
      have hdm : Matches (Named fun v w => v.Distinct ∧ v.Reordered w) entries members :=
        (hm.and_left hd).imp fun e f ⟨he, hn, hef⟩ => ⟨hn, he, hef⟩
      exact ⟨members, rfl, hm, hdm.lookup hn⟩

/-- The two schemas have verdicts that are alike on all inputs that differ in order only. -/
abbrev MeetsAlike (s t : Schema) : Prop :=
  ∀ x y p, Reordering x y → Run.Meets Verdict.Alike (s.validate x p) (t.validate y p)

theorem meets_literal (value : Value) (message : Option String) :
    MeetsAlike (.literal value message) (.literal value message) := by
  intro x y p hxy
  refine .pure ?_
  cases hxy with
  | none => exact .refl _
  | @some v w h =>
    have hs : value.same v = value.same w := Value.same_reordered (.refl value) h.2 h.1
    simp only [literalVerdict, hs]
    split
    · exact Option.Rel.some h.2
    · exact List.Perm.refl _

theorem meets_leaf (hs : s.isLeaf = true) : MeetsAlike s s := by
  cases s with
  | literal value message => exact meets_literal value message
  | any | unknown =>
    intro x y p hxy
    cases hxy with
    | none => exact .pure (.refl _)
    | some h => exact .pure (Option.Rel.some h.2)
  | string _ | number _ | boolean _ | choice _ _ | null | undefined | void =>
    intro x y p hxy
    cases hxy with
    | none => exact .pure (.refl _)
    | some h =>
      cases h.2 with
      | refl => exact .pure (.refl _)
      | array _ _ | object _ _ _ => exact .pure (Verdict.alike_single (d := (p, _, _)) rfl rfl)
  | _ => cases hs

theorem meets_elements {element other : Schema} {items others : List Value}
    (h : MeetsAlike element other)
    (hi : List.Forall₂ (fun v w => v.Distinct ∧ v.Reordered w) items others) :
    Run.Meets (List.Forall₂ Verdict.Alike)
      (items.zipIdx.mapM fun item => element.validate (some item.1) (p.index item.2))
      (others.zipIdx.mapM fun item => other.validate (some item.1) (p.index item.2)) := by
  have helements : List.Forall₂ (fun a b => a.2 = b.2 ∧ Run.Meets Verdict.Alike
      (element.validate (some a.1) (p.index a.2)) (other.validate (some b.1) (p.index b.2)))
      items.zipIdx others.zipIdx :=
    (forall₂_zipIdx hi 0).imp fun a b ⟨hvw, hn⟩ => ⟨hn, hn ▸ h _ _ _ (.some hvw)⟩
  obtain ⟨r, t, hr, ht, hrt⟩ := Run.exists_results_of_meets helements
  refine ⟨items.zipIdx.map r, others.zipIdx.map t, ?_, ?_, ?_⟩
  · rw [Run.mapM_of_ok hr]
  · rw [Run.mapM_of_ok ht]
  · exact List.rel_map (fun {a b} hab => hab.2) hrt

theorem meets_array {element other : Schema} (rules : ArrayRules) (h : MeetsAlike element other) :
    MeetsAlike (.array element rules) (.array other rules) := by
  intro x y p hxy
  match x with
  | some (.array items) =>
    obtain ⟨others, rfl, hi⟩ := hxy.of_array
    obtain ⟨hd, hi'⟩ := (List.forall₂_and_left items others).mp hi
    rw [validate, validate]
    exact (meets_elements h hi).bind fun vs ws hvw => .pure (Verdict.alike_array hi' hd hvw)
  | none =>
    cases hxy
    exact .pure (.refl _)
  | some .null | some (.bool _) | some (.number _) | some (.string _) | some (.object _) =>
    cases hxy with
    | some hvw => cases hvw.2 <;> exact .pure (Verdict.alike_single (d := (p, _, _)) rfl rfl)

theorem meets_fields {shape others : List (String × Schema)}
    {entries members : List (String × Value)} (h : Matches (Named MeetsAlike) shape others)
    (hl : ∀ name, Reordering (entries.lookup name) (members.lookup name)) :
    Run.Meets (Matches (Named Verdict.Alike)) (validateFields shape entries p)
      (validateFields others members p) := by
  obtain ⟨mid, hp, hm⟩ := h
  have hfields : List.Forall₂ (fun f g => f.1 = g.1 ∧ Run.Meets Verdict.Alike
      (f.2.validate (entries.lookup f.1) (p.key f.1))
      (g.2.validate (members.lookup g.1) (p.key g.1))) mid others :=
    hm.imp fun f g ⟨hn, hfg⟩ => ⟨hn, hn ▸ hfg _ _ _ (hl f.1)⟩
  obtain ⟨r, t, hr, ht, hrt⟩ := Run.exists_results_of_meets hfields
  -- The verdict is a function of the field, so the verdicts can be put into the order of `mid` too.
  refine ⟨shape.map fun f => (f.1, r f), others.map fun g => (g.1, t g), ?_, ?_, ?_⟩
  · exact Call.validateFields_ok_iff.mpr ⟨r, fun f hf => hr f (hp.mem_iff.mp hf), rfl⟩
  · exact Call.validateFields_ok_iff.mpr ⟨t, ht, rfl⟩
  · refine ⟨mid.map fun f : String × Schema => (f.1, r f), hp.map _, ?_⟩
    exact List.forall₂_map_left_iff.mpr (List.forall₂_map_right_iff.mpr hrt)

theorem meets_object {shape others : List (String × Schema)} (unknownKeys : UnknownKeys)
    (message : Option String) (h : Matches (Named MeetsAlike) shape others) :
    MeetsAlike (.object shape unknownKeys message) (.object others unknownKeys message) := by
  intro x y p hxy
  match x with
  | some (.object entries) =>
    obtain ⟨members, rfl, hm, hl⟩ := hxy.of_object
    have hnames : (shape.map Prod.fst).Perm (others.map Prod.fst) :=
      h.map_perm fun f g hfg => hfg.1
    have hunknown : Matches (Named Value.Reordered)
        (undeclared (shape.map Prod.fst) entries) (undeclared (others.map Prod.fst) members) :=
      hm.filter fun e f hef => by rw [hef.1, hnames.contains_eq]
    rw [validate, validate]
    exact (meets_fields h hl).bind fun fields fields' hf =>
      .pure (Verdict.alike_object hunknown hf)
  | none =>
    cases hxy
    exact .pure (.refl _)
  | some .null | some (.bool _) | some (.number _) | some (.string _) | some (.array _) =>
    cases hxy with
    | some hvw => cases hvw.2 <;> exact .pure (Verdict.alike_single (d := (p, _, _)) rfl rfl)

/-! ## Unions -/

section Union
variable {options others : List Schema}

theorem meets_firstAccepted (h : List.Forall₂ (fun o o' => Run.Meets Verdict.Alike
      (o.validate x p) (o'.validate y p)) options others) :
    Run.Meets (Option.Rel (Option.Rel Value.Reordered)) (firstAccepted options x p)
      (firstAccepted others y p) := by
  induction h with
  | nil => exact .pure .none
  | @cons o o' options others ho _ ih =>
    rw [firstAccepted, firstAccepted]
    refine ho.bind fun v w hvw => ?_
    rcases hvw.cases with ⟨out, out', rfl, rfl, hout⟩ | ⟨is, js, rfl, rfl, _⟩
    · exact .pure (.some hout)
    · exact ih

theorem meets_union (message : Option String) (h : List.Forall₂ MeetsAlike options others) :
    MeetsAlike (.union options message) (.union others message) := by
  intro x y p hxy
  have ho := meets_firstAccepted (h.imp fun o o' ho => ho x y p hxy)
  rw [validate, validate]
  refine ho.bind fun r t hrt => ?_
  cases hrt with
  | none => exact .pure (Verdict.alike_single (d := (p, _, _)) rfl rfl)
  | some hout => exact .pure hout

end Union

/-! ## Wrappers -/

theorem meets_optional (h : MeetsAlike s t) : MeetsAlike (.optional s) (.optional t) := by
  intro x y p hxy
  cases hxy with
  | none => exact .pure (.refl _)
  | some hvw => exact h _ _ p (.some hvw)

theorem meets_withDefault (value : Value) (h : MeetsAlike s t) :
    MeetsAlike (.withDefault s value) (.withDefault t value) := by
  intro x y p hxy
  cases hxy with
  | none => exact .pure (.refl _)
  | some hvw => exact h _ _ p (.some hvw)

theorem meets_nullable (h : MeetsAlike s t) : MeetsAlike (.nullable s) (.nullable t) := by
  intro x y p hxy
  have hkind : Kind.of x = Kind.of y := by
    cases hxy with
    | none => rfl
    | some hvw => exact hvw.2.kind_eq
  by_cases hx : x = some .null
  · have hy : y = some .null := by
      rw [← Kind.of_eq_null_iff, ← hkind, Kind.of_eq_null_iff]
      exact hx
    rw [hx, hy]
    exact .pure (.refl _)
  · have hy : y ≠ some .null := by
      rw [Ne, ← Kind.of_eq_null_iff, ← hkind, Kind.of_eq_null_iff]
      exact hx
    rw [validate_nullable hx, validate_nullable hy]
    exact h x y p hxy

/-! ## All schemas -/

theorem Redeclared.meetsAlike (h : Redeclared s t) : MeetsAlike s t := by
  induction h with
  | leaf hs => exact meets_leaf hs
  | array rules _ ih => exact meets_array rules ih
  | @object shape mid others unknownKeys message perm names _ ih =>
    exact meets_object unknownKeys message
      ⟨mid, perm, forall₂_named_iff.mpr ⟨names, fun f g hm => ih f g hm⟩⟩
  | union message length _ ih =>
    exact meets_union message (List.forall₂_iff_zip.mpr ⟨length, fun hm => ih _ _ hm⟩)
  | optional _ ih => exact meets_optional ih
  | nullable _ ih => exact meets_nullable ih
  | withDefault value _ ih => exact meets_withDefault value ih
  | boxed _ ih => exact fun x y p hxy => ih x y p hxy

end Schema
end Schemata
