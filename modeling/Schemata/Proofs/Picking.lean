import Schemata.Proofs.Declaration

/-! # Two declarations, call by call

Each call that one declaration of a schema comes to on an input has a counterpart: the other
declaration, on the reordered input, comes to it at the same path. So unions take the same options
all through the two evaluations.
-/
namespace Schemata

namespace Schema
variable {s t : Schema} {x y : Option Value} {p : Path}

/-! ## The option that a union takes -/

def accepts (s : Schema) (x : Option Value) (p : Path) : Bool :=
  match (s.validate x p).outcome with
  | .ok (.ok _) => true
  | _ => false

/-- The position of the first option that accepts an input. -/
def picked? : Schema → Option Value → Path → Option Nat
  | .union options _, x, p => options.findIdx? fun o => o.accepts x p
  | _, _, _ => none

variable {options others : List Schema}

theorem accepts_eq_of_meets {t : Schema} {q : Path}
    (h : Run.Meets Verdict.Alike (s.validate x p) (t.validate y q)) :
    s.accepts x p = t.accepts y q := by
  obtain ⟨v, w, hv, hw, hvw⟩ := h
  simp only [accepts, hv, hw]
  rcases hvw.cases with ⟨out, out', rfl, rfl, _⟩ | ⟨is, js, rfl, rfl, _⟩
  · rfl
  · rfl

theorem picked?_union_eq (message : Option String) (h : List.Forall₂ MeetsAlike options others)
    (hxy : Reordering x y) :
    picked? (.union options message) x p = picked? (.union others message) y p := by
  induction h with
  | nil => rfl
  | cons ho _ ih =>
    simp only [picked?, List.findIdx?_cons] at ih ⊢
    rw [accepts_eq_of_meets (ho x y p hxy), ih]

theorem Redeclared.picked?_eq (h : Redeclared s t) (hxy : Reordering x y) :
    s.picked? x p = t.picked? y p := by
  cases h with
  | union message length each =>
    exact picked?_union_eq message
      (List.forall₂_iff_zip.mpr ⟨length, fun hm => (each _ _ hm).meetsAlike⟩) hxy
  | leaf hs => cases s with
    | union options message => cases hs
    | _ => rfl
  | _ => rfl

end Schema

/-! ## Counterparts -/

namespace Call
variable {c d e : Call}

/-- Two calls at one path, of two declarations of a schema on inputs that differ in order only. -/
structure Counterpart (c d : Call) : Prop where
  schema : c.schema.Redeclared d.schema
  input : Schema.Reordering c.input d.input
  path : c.path = d.path

theorem Counterpart.meets (h : c.Counterpart d) : Run.Meets Verdict.Alike c.run d.run := by
  rw [run, run, h.path]
  exact h.schema.meetsAlike _ _ _ h.input

theorem Counterpart.isUnion_eq (h : c.Counterpart d) : c.isUnion = d.isUnion := by
  obtain ⟨s, x, p⟩ := c
  obtain ⟨t, y, q⟩ := d
  cases h.schema <;> rfl

theorem parts_of_leaf {s : Schema} (hs : s.isLeaf = true) (x : Option Value) (p : Path) :
    parts ⟨s, x, p⟩ = [] := by
  cases s <;> first | rfl | cases hs

/-- The parts of counterparts are counterparts, in some order, which for the options of a union is
the one that they have. -/
theorem Counterpart.parts (h : c.Counterpart d) :
    ∃ k, c.parts.Perm k ∧ (c.isUnion = true → k = c.parts) ∧
      List.Forall₂ Counterpart k d.parts := by
  obtain ⟨s, x, p⟩ := c
  obtain ⟨t, y, q⟩ := d
  obtain ⟨hs, hxy, rfl⟩ := h
  cases hs with
  | leaf hs =>
    rw [parts_of_leaf hs, parts_of_leaf hs]
    exact ⟨[], .refl _, fun _ => rfl, .nil⟩
  | array rules h =>
    match x with
    | some (.array items) =>
      obtain ⟨others, rfl, hi⟩ := hxy.of_array
      refine ⟨_, .refl _, fun _ => rfl, ?_⟩
      exact List.rel_map (fun {a b} hab => ⟨h, .some hab.1, hab.2 ▸ rfl⟩) (forall₂_zipIdx hi 0)
    | none =>
      cases hxy
      exact ⟨[], .refl [], fun _ => rfl, .nil⟩
    | some .null | some (.bool _) | some (.number _) | some (.string _) | some (.object _) =>
      cases hxy with
      | some hvw => cases hvw.2 <;> exact ⟨[], .refl [], fun _ => rfl, .nil⟩
  | @object shape mid others unknownKeys message perm names each =>
    match x with
    | some (.object entries) =>
      obtain ⟨members, rfl, _, hl⟩ := hxy.of_object
      refine ⟨mid.map fun f : String × Schema => ⟨f.2, entries.lookup f.1, p.key f.1⟩, perm.map _,
        nofun, ?_⟩
      refine List.rel_map (fun {f g} hfg => ?_) (forall₂_named_iff.mpr ⟨names, each⟩)
      exact ⟨hfg.2, hfg.1 ▸ hl f.1, congrArg p.key hfg.1⟩
    | none =>
      cases hxy
      exact ⟨[], .refl [], fun _ => rfl, .nil⟩
    | some .null | some (.bool _) | some (.number _) | some (.string _) | some (.array _) =>
      cases hxy with
      | some hvw => cases hvw.2 <;> exact ⟨[], .refl [], fun _ => rfl, .nil⟩
  | union message length each =>
    refine ⟨_, .refl _, fun _ => rfl, ?_⟩
    refine List.rel_map (fun {s t} hst => ⟨hst, hxy, rfl⟩) ?_
    exact List.forall₂_iff_zip.mpr ⟨length, fun hm => each _ _ hm⟩
  | optional h | withDefault _ h =>
    cases hxy with
    | none => exact ⟨[], .refl [], fun _ => rfl, .nil⟩
    | some hvw => exact ⟨_, .refl _, fun _ => rfl, .cons ⟨h, .some hvw, rfl⟩ .nil⟩
  | nullable h =>
    match x with
    | none =>
      cases hxy
      exact ⟨_, .refl _, fun _ => rfl, .cons ⟨h, .none, rfl⟩ .nil⟩
    | some .null =>
      cases hxy with
      | some hvw => cases hvw.2; exact ⟨[], .refl [], fun _ => rfl, .nil⟩
    | some (.bool _) | some (.number _) | some (.string _) | some (.array _)
    | some (.object _) =>
      cases hxy with
      | some hvw =>
        cases hvw.2 <;> exact ⟨_, .refl _, fun _ => rfl, .cons ⟨h, .some hvw, rfl⟩ .nil⟩
  | boxed h => exact ⟨_, .refl _, fun _ => rfl, .cons ⟨h, hxy, rfl⟩ .nil⟩

theorem goesOnAfter_union_iff {v : Verdict} (hc : c.isUnion = true) :
    c.GoesOnAfter v ↔ ∃ is, v = .error is := by
  obtain ⟨s, x, p⟩ := c
  cases s with
  | union options message => cases v <;> simp [GoesOnAfter]
  | _ => cases hc

theorem Counterpart.enters (h : c.Counterpart d) (he : c.Enters e) :
    ∃ e', d.Enters e' ∧ e.Counterpart e' := by
  obtain ⟨k, hp, hu, hk⟩ := h.parts
  cases hc : c.isUnion with
  | true =>
    have hd : d.isUnion = true := h.isUnion_eq.symm.trans hc
    obtain ⟨before, after, hparts, hbefore⟩ := he
    rw [hu hc, hparts] at hk
    obtain ⟨before', e', after', hparts', hb, hee, _⟩ := forall₂_append_left hk
    refine ⟨e', ⟨before', after', hparts', fun b' hb' => ?_⟩, hee⟩
    -- An option before it was refused, so its counterpart is.
    obtain ⟨b, hm, hbb⟩ := (Matches.of_forall₂ hb).exists_left hb'
    obtain ⟨v, hv, hgo⟩ := hbefore b hm
    obtain ⟨is, rfl⟩ := (goesOnAfter_union_iff hc).mp hgo
    obtain ⟨v', w, hv', hw, hvw⟩ := hbb.meets
    obtain rfl := Except.ok.inj (hv.symm.trans hv')
    refine ⟨w, hw, (goesOnAfter_union_iff hd).mpr ?_⟩
    rcases hvw.cases with ⟨out, _, hout, _⟩ | ⟨_, js, _, rfl, _⟩
    · cases hout
    · exact ⟨js, rfl⟩
  | false =>
    have hm : Matches Counterpart c.parts d.parts := ⟨k, hp, hk⟩
    obtain ⟨e', he', hee⟩ := hm.exists_right he.mem_parts
    refine ⟨e', enters_of_mem_parts (h.isUnion_eq.symm.trans hc) (fun b' hb' => ?_) he', hee⟩
    obtain ⟨b, _, hbb⟩ := hm.exists_left hb'
    obtain ⟨_, w, _, hw, _⟩ := hbb.meets
    exact ⟨w, hw⟩

theorem Counterpart.reaches (h : c.Counterpart d) (hr : c.Reaches e) :
    ∃ e', d.Reaches e' ∧ e.Counterpart e' := by
  induction hr with
  | refl => exact ⟨d, .refl, h⟩
  | tail _ he ih =>
    obtain ⟨f, hf, hc⟩ := ih
    obtain ⟨e', he', hee⟩ := hc.enters he
    exact ⟨e', hf.tail he', hee⟩

theorem Counterpart.picked?_eq (h : c.Counterpart d) :
    c.schema.picked? c.input c.path = d.schema.picked? d.input d.path := by
  rw [h.path]
  exact h.schema.picked?_eq h.input

end Call

/-- A schema without callbacks and custom nodes, on an input that writes no name twice, and the
schema with its fields declared in another order, on the input with the entries of its objects in
another order: both accept, with outputs that differ in the order of entries only, or both refuse,
with the same issues in some order as far as path, code and what was wanted go. What one evaluation
comes to, the other does at the same path, and unions take the same option there. -/
theorem order_decides_nothing {s t : Schema} (h : s.Redeclared t) {x y : Option Value}
    (hxy : Option.Rel (fun v w => v.Distinct ∧ v.Reordered w) x y) (p : Path) :
    ((∃ out out', (s.validate x p).outcome = .ok (.ok out) ∧
        (t.validate y p).outcome = .ok (.ok out') ∧ Option.Rel Value.Reordered out out') ∨
      ∃ is js, (s.validate x p).outcome = .ok (.error is) ∧
        (t.validate y p).outcome = .ok (.error js) ∧
        (is.toList.map fun i => (i.path, i.code, i.expected)).Perm
          (js.toList.map fun i => (i.path, i.code, i.expected))) ∧
      ∀ c, Call.Reaches ⟨s, x, p⟩ c → ∃ d, Call.Reaches ⟨t, y, p⟩ d ∧ d.path = c.path ∧
        c.schema.Redeclared d.schema ∧
        d.schema.picked? d.input d.path = c.schema.picked? c.input c.path := by
  constructor
  · obtain ⟨v, w, hv, hw, hvw⟩ := h.meetsAlike x y p hxy
    rcases hvw.cases with ⟨out, out', rfl, rfl, hout⟩ | ⟨is, js, rfl, rfl, hp⟩
    · exact .inl ⟨out, out', hv, hw, hout⟩
    · exact .inr ⟨is, js, hv, hw, hp⟩
  · intro c hc
    have hroot : Call.Counterpart ⟨s, x, p⟩ ⟨t, y, p⟩ := ⟨h, hxy, rfl⟩
    obtain ⟨d, hd, hcd⟩ := hroot.reaches hc
    exact ⟨d, hd, hcd.path.symm, hcd.schema, hcd.picked?_eq.symm⟩

def parcel (things fields : List (String × Schema) → List (String × Schema)) : Schema :=
  .object
    (fields [("label", .literal (.object [("from", .string "a"), ("to", .string "b")]) none),
      ("things", .array (.union
        [.object (things [("id", .number .none), ("at", .string .none)]) .strict none,
          .object [("name", .string .none)] .passthrough none] none) (.unique .none))])
    .strict none

def badParcel : Value :=
  .object
    [("label", .object [("to", .string "c"), ("from", .string "a")]),
      ("things", .array [.object [("name", .string "n"), ("new", .bool true)],
        .object [("id", .int 1), ("at", .string "p")],
        .object [("new", .bool true), ("name", .string "n")]]),
      ("paid", .null)]

def badParcelReordered : Value :=
  .object
    [("paid", .null),
      ("things", .array [.object [("new", .bool true), ("name", .string "n")],
        .object [("at", .string "p"), ("id", .int 1)],
        .object [("new", .bool true), ("name", .string "n")]]),
      ("label", .object [("from", .string "a"), ("to", .string "c")])]

theorem redeclared_parcel : (parcel id id).Redeclared (parcel List.reverse List.reverse) := by
  have hplace : Schema.Redeclared
      (.object [("id", .number .none), ("at", .string .none)] .strict none)
      (.object [("at", .string .none), ("id", .number .none)] .strict none) :=
    .object_of_matches .strict none ⟨_, .swap _ _ [],
      .cons ⟨rfl, .leaf rfl⟩ (.cons ⟨rfl, .leaf rfl⟩ .nil)⟩
  have hname : Schema.Redeclared (.object [("name", .string .none)] .passthrough none)
      (.object [("name", .string .none)] .passthrough none) :=
    .refl_of_uncalled (.wrap trivial rfl (.leaf trivial rfl))
  have hthings := Schema.Redeclared.union_of_forall₂ none (.cons hplace (.cons hname .nil))
  exact .object_of_matches .strict none ⟨_, .swap _ _ [],
    .cons ⟨rfl, .array _ hthings⟩ (.cons ⟨rfl, .leaf rfl⟩ .nil)⟩

theorem distinct_badParcel : badParcel.Distinct := by
  have hpair : ∀ {n m : String} {v w : Value}, n ≠ m → v.Distinct → w.Distinct →
      Value.Distinct (.object [(n, v), (m, w)]) := fun hn hv hw =>
    .object (by simpa [Entries.Distinct] using hn)
      (List.forall_mem_cons.mpr ⟨hv, List.forall_mem_singleton.mpr hw⟩)
  have hlabel := hpair (n := "to") (m := "from") (by simp) (.string "c") (.string "a")
  have hnamed := hpair (n := "name") (m := "new") (by simp) (.string "n") (.bool true)
  have hplaced := hpair (n := "id") (m := "at") (by simp) (.number (.int 1)) (.string "p")
  have hnamed' := hpair (n := "new") (m := "name") (by simp) (.bool true) (.string "n")
  have hthings := List.forall_mem_cons.mpr ⟨hnamed,
    List.forall_mem_cons.mpr ⟨hplaced, List.forall_mem_singleton.mpr hnamed'⟩⟩
  exact .object (by simp [Entries.Distinct]) (List.forall_mem_cons.mpr
    ⟨hlabel, List.forall_mem_cons.mpr ⟨.array hthings, List.forall_mem_singleton.mpr .null⟩⟩)

theorem reordered_badParcel : badParcel.Reordered badParcelReordered := by
  have hthings : Value.Reordered _ _ := .array_of_forall₂
    (.cons (.object_of_perm (.swap ("new", .bool true) ("name", .string "n") []))
      (.cons (.object_of_perm (.swap ("at", .string "p") ("id", .int 1) []))
        (.cons (.refl (.object [("new", .bool true), ("name", .string "n")])) .nil)))
  have hlabel : Value.Reordered (.object [("to", .string "c"), ("from", .string "a")])
      (.object [("from", .string "a"), ("to", .string "c")]) := .object_of_perm (.swap _ _ [])
  exact .object_of_matches ⟨_, (List.reverse_perm _).symm,
    .cons ⟨rfl, .refl .null⟩ (.cons ⟨rfl, hthings⟩ (.cons ⟨rfl, hlabel⟩ .nil))⟩

theorem order_decides_nothing_parcel :
    (parcel id id).Redeclared (parcel List.reverse List.reverse) ∧ badParcel.Distinct ∧
      badParcel.Reordered badParcelReordered ∧
      ∃ is js, ((parcel id id).validate (some badParcel) []).outcome = .ok (.error is) ∧
        ((parcel List.reverse List.reverse).validate (some badParcelReordered) []).outcome =
          .ok (.error js) ∧
        is.toList.map Issue.code = [.invalidLiteral, .custom, .unrecognizedKeys] ∧
        js.toList.map Issue.code = [.custom, .invalidLiteral, .unrecognizedKeys] ∧
        (is.toList.map fun i => (i.path, i.code, i.expected)).Perm
          (js.toList.map fun i => (i.path, i.code, i.expected)) := by
  have hcodes : ((parcel id id).validate (some badParcel) []).outcome.map
      (fun v => v.issues.map Issue.code) =
    .ok [.invalidLiteral, .custom, .unrecognizedKeys] := rfl
  have hcodes' : ((parcel List.reverse List.reverse).validate (some badParcelReordered)
      []).outcome.map (fun v => v.issues.map Issue.code) =
    .ok [.custom, .invalidLiteral, .unrecognizedKeys] := rfl
  refine ⟨redeclared_parcel, distinct_badParcel, reordered_badParcel, ?_⟩
  obtain ⟨⟨out, out', ho, _⟩ | ⟨is, js, hs, ht, hp⟩, _⟩ := order_decides_nothing redeclared_parcel
    (.some ⟨distinct_badParcel, reordered_badParcel⟩) []
  · rw [ho] at hcodes
    cases hcodes
  · rw [hs] at hcodes
    rw [ht] at hcodes'
    exact ⟨is, js, hs, ht, Except.ok.inj hcodes, Except.ok.inj hcodes', hp⟩

end Schemata
