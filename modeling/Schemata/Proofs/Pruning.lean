import Schemata.Proofs.Output

/-! # Outputs are prunings of inputs

Without transforms and defaults a schema only drops entries of objects. The induction is over the
schema, with two facts beside it: a present input never gives nothing, which would put null into an
array, and an absent one never gives a value, which would put an entry into an object that is not
among those of the input.
-/
namespace Schemata

/-- A value cut down from another one. An array keeps its length, and an object keeps some of its
names, each with a value cut down from the one that it had. -/
inductive Value.PruningOf : Value → Value → Prop
  | refl (v : Value) : PruningOf v v
  | array {items kept : List Value} (length : kept.length = items.length)
    (elements : ∀ (i : Nat) (v w : Value), items[i]? = some v → kept[i]? = some w →
      PruningOf w v) : PruningOf (.array kept) (.array items)
  | object {entries kept : List (String × Value)} (distinct : Entries.Distinct kept)
    (names : ∀ e ∈ kept, e.1 ∈ Entries.names entries)
    (values : ∀ e ∈ kept, ∀ v, entries.lookup e.1 = some v → PruningOf e.2 v) :
    PruningOf (.object kept) (.object entries)

namespace Schema

/-- A node that makes no value of its own and names no field twice. -/
def Prunes : Schema → Prop
  | .custom _ _ | .transform _ _ | .withDefault _ _ => False
  | .object shape _ _ => Entries.Distinct shape
  | _ => True

theorem native_of_prunes {s : Schema} (hs : s.Every Prunes) : s.Native :=
  hs.native fun _ _ => id

theorem absent_of_absent {s : Schema} (hs : s.Every Prunes) {p : Path} {out : Option Value}
    (h : (s.validate none p).outcome = .ok (.ok out)) : out = none := by
  induction hs generalizing p out with
  | @node s here below ih =>
    cases s with
    | custom name run | transform inner mapper | withDefault inner value => exact here.elim
    | string _ | number _ | boolean _ | literal _ _ | choice _ _ | null | undefined | void | any
    | unknown => exact eq_of_leaf_ok rfl h
    | array element rules => cases h
    | object shape unknownKeys message => cases h
    | union options message =>
      obtain ⟨o, hm, ho⟩ := Call.exists_option_of_ok h
      exact ih o hm ho
    | optional inner =>
      cases h
      rfl
    | nullable inner | boxed inner => exact ih inner List.mem_cons_self h
    | refine inner check =>
      obtain ⟨w, hw, h⟩ := Run.outcome_bind_eq_ok h
      rcases Callback.after_ok_iff.mp h with ⟨_, ho⟩ | ⟨value, a, rfl, _, _⟩
      · exact ho
      · cases ih inner List.mem_cons_self hw

/-- One step, for arrays: an element that is there gives a value, so null stands in for none. -/
theorem array_pruning {element : Schema} {rules : ArrayRules} {items : List Value} {y : Value}
    {p : Path} (hs : element.Native)
    (ih : ∀ v ∈ items, ∀ {w p}, (element.validate (some v) p).outcome = .ok (.ok (some w)) →
      w.PruningOf v)
    (h : (validate (.array element rules) (some (.array items)) p).outcome = .ok (.ok (some y))) :
    y.PruningOf (.array items) := by
  obtain ⟨_, o, ho, hy⟩ := Call.array_ok_iff.mp h
  cases hy
  apply Value.PruningOf.array
  · simp [Call.parts]
  · intro i v w hv hw
    obtain ⟨hi, rfl⟩ := List.getElem?_eq_some_iff.mp hv
    have hd := ho ⟨element, some items[i], p.index i⟩ (List.mem_map.mpr
      ⟨(items[i], i), List.mk_mem_zipIdx_iff_getElem?.mpr hv, rfl⟩)
    obtain ⟨z, hz⟩ := present_of_present hs hd
    rw [hz] at hd
    have hzw : z = w := by simpa [Call.parts, hi, hz] using hw
    rw [← hzw]
    exact ih items[i] (List.getElem_mem hi) hd

/-- One step, for objects: what a field gives comes from the entry of its name, and what is kept of
the undeclared entries stands under names that no field has. -/
theorem object_pruning {shape : List (String × Schema)} {unknownKeys : UnknownKeys}
    {message : Option String} {entries : List (String × Value)} {y : Value} {p : Path}
    (hshape : Entries.Distinct shape) (hentries : Entries.Distinct entries)
    (habsent : ∀ f ∈ shape, ∀ {p out}, (f.2.validate none p).outcome = .ok (.ok out) → out = none)
    (ih : ∀ f ∈ shape, ∀ e ∈ entries, ∀ {w p},
      (f.2.validate (some e.2) p).outcome = .ok (.ok (some w)) → w.PruningOf e.2)
    (h : (validate (.object shape unknownKeys message) (some (.object entries)) p).outcome =
      .ok (.ok (some y))) : y.PruningOf (.object entries) := by
  obtain ⟨o, ho, _, hy⟩ := Call.object_ok_iff.mp h
  cases hy
  -- An absent field gives nothing, so a name that a field writes was in the input.
  have hfield : ∀ e ∈ produced shape o, ∃ v, entries.lookup e.1 = some v ∧ e.2.PruningOf v := by
    intro e he
    obtain ⟨f, hf, hname, hv⟩ := mem_produced he
    have hr := ho f hf
    rw [hv, hname] at hr
    cases hl : entries.lookup e.1 with
    | none =>
      rw [hl] at hr
      cases habsent f hf hr
    | some v =>
      rw [hl] at hr
      have hm : (e.1, v) ∈ entries := Entries.mem_of_lookup hl
      exact ⟨v, rfl, ih f hf (e.1, v) hm hr⟩
  apply Value.PruningOf.object
  · exact distinct_output hshape hentries o unknownKeys
  · intro e he
    rcases List.mem_append.mp he with he | he
    · obtain ⟨v, hl, _⟩ := hfield e he
      exact List.mem_map.mpr ⟨(e.1, v), Entries.mem_of_lookup hl, rfl⟩
    · exact List.mem_map_of_mem (UnknownKeys.mem_kept_undeclared he).1
  · intro e he v hv
    rcases List.mem_append.mp he with he | he
    · obtain ⟨w, hl, hw⟩ := hfield e he
      obtain rfl := Option.some.inj (hl.symm.trans hv)
      exact hw
    · have hl := hentries.lookup_of_mem (UnknownKeys.mem_kept_undeclared he).1
      obtain rfl := Option.some.inj (hl.symm.trans hv)
      exact .refl _

theorem pruning_of_accepted {s : Schema} (hs : s.Every Prunes) {x y : Value} {p : Path}
    (hx : x.Distinct) (h : (s.validate (some x) p).outcome = .ok (.ok (some y))) :
    y.PruningOf x := by
  induction hs generalizing x y p with
  | @node s here below ih =>
    cases s with
    | custom name run | transform inner mapper | withDefault inner value => exact here.elim
    | string _ | number _ | boolean _ | literal _ _ | choice _ _ | null | undefined | void | any
    | unknown =>
      cases eq_of_leaf_ok rfl h
      exact .refl x
    | array element rules =>
      have hm : element ∈ children (.array element rules) := List.mem_cons_self
      cases hx with
      | array each =>
        exact array_pruning (native_of_prunes (below element hm))
          (fun v hv _ _ hw => ih element hm (each v hv) hw) h
      | _ => cases h
    | object shape unknownKeys message =>
      have hm : ∀ f ∈ shape, f.2 ∈ children (.object shape unknownKeys message) :=
        fun f hf => List.mem_map_of_mem hf
      cases hx with
      | object names each =>
        exact object_pruning here names
          (fun f hf _ _ hr => absent_of_absent (below f.2 (hm f hf)) hr)
          (fun f hf e he _ _ hw => ih f.2 (hm f hf) (each e he) hw) h
      | _ => cases h
    | union options message =>
      obtain ⟨o, hm, ho⟩ := Call.exists_option_of_ok h
      exact ih o hm hx ho
    | optional inner | boxed inner => exact ih inner List.mem_cons_self hx h
    | nullable inner =>
      by_cases hn : some x = some .null
      · cases hn
        cases h
        exact .refl .null
      · rw [validate_nullable hn] at h
        exact ih inner List.mem_cons_self hx h
    | refine inner check =>
      obtain ⟨w, hw, h⟩ := Run.outcome_bind_eq_ok h
      rcases Callback.after_ok_iff.mp h with ⟨_, ho⟩ | ⟨value, a, rfl, _, ho⟩
      · cases ho
      · cases ho
        exact ih inner List.mem_cons_self hx hw

end Schema

/-- What a schema without transforms and defaults makes of a present input is a pruning of it, and
of an absent input it makes nothing. -/
theorem outputs_prune_inputs {s : Schema} (hs : s.Every Schema.Prunes) (p : Path) :
    (∀ x out, x.Distinct → (s.validate (some x) p).outcome = .ok (.ok out) →
      ∃ y, out = some y ∧ y.PruningOf x) ∧
    ∀ out, (s.validate none p).outcome = .ok (.ok out) → out = none := by
  constructor
  · intro x out hx h
    obtain ⟨y, rfl⟩ := Schema.present_of_present (Schema.native_of_prunes hs) h
    exact ⟨y, rfl, Schema.pruning_of_accepted hs hx h⟩
  · intro out h
    exact Schema.absent_of_absent hs h

def letter : Schema :=
  .object
    [("subject", .optional (.string .none)),
      ("to", .array (.union [.object [("at", .string .none)] .strip none, .string .none] none)
        .none)]
    .passthrough none

def draft : Value :=
  .object [("urgent", .bool true), ("to", .array [.object [("at", .string "a"), ("bcc", .null)],
    .string "b"])]

theorem prunes_letter : letter.Every Schema.Prunes := by
  have hsubject : Schema.Every Schema.Prunes (.optional (.string .none)) :=
    .wrap trivial rfl (.leaf trivial rfl)
  have hrecord : Schema.Every Schema.Prunes (.object [("at", .string .none)] .strip none) :=
    .wrap (show Entries.Distinct _ from List.pairwise_singleton _ _) rfl (.leaf trivial rfl)
  have haddress : Schema.Every Schema.Prunes
      (.union [.object [("at", .string .none)] .strip none, .string .none] none) :=
    .node trivial (List.forall_mem_cons.mpr
      ⟨hrecord, List.forall_mem_singleton.mpr (.leaf trivial rfl)⟩)
  have hnames : Schema.Prunes letter := by simp [letter, Schema.Prunes, Entries.Distinct]
  exact .node hnames (List.forall_mem_cons.mpr
    ⟨hsubject, List.forall_mem_singleton.mpr (.wrap trivial rfl haddress)⟩)

theorem distinct_draft : draft.Distinct := by
  have haddress : Value.Distinct (.object [("at", .string "a"), ("bcc", .null)]) :=
    .object (by simp [Entries.Distinct])
      (List.forall_mem_cons.mpr ⟨.string "a", List.forall_mem_singleton.mpr .null⟩)
  have hto := List.forall_mem_cons.mpr
    ⟨haddress, List.forall_mem_singleton.mpr (Value.Distinct.string "b")⟩
  exact .object (by simp [Entries.Distinct])
    (List.forall_mem_cons.mpr ⟨.bool true, List.forall_mem_singleton.mpr (.array hto)⟩)

theorem outputs_prune_inputs_letter :
    letter.Every Schema.Prunes ∧ draft.Distinct ∧
      (letter.validate (some draft) []).outcome = .ok (.ok (some (.object
        [("to", .array [.object [("at", .string "a")], .string "b"]), ("urgent", .bool true)]))) ∧
      Value.PruningOf (.object
        [("to", .array [.object [("at", .string "a")], .string "b"]), ("urgent", .bool true)])
        draft := by
  have h : (letter.validate (some draft) []).outcome = .ok (.ok (some (.object
    [("to", .array [.object [("at", .string "a")], .string "b"]), ("urgent", .bool true)]))) := rfl
  obtain ⟨y, hy, hp⟩ := (outputs_prune_inputs prunes_letter []).1 draft _ distinct_draft h
  cases hy
  exact ⟨prunes_letter, distinct_draft, h, hp⟩

end Schemata
