import Schemata.Proofs.Output
import Schemata.Proofs.Relocation

/-! # Outputs are fixed points

Without transforms, unions and repetition checks, and with defaults that their own schemas accept
unchanged, what a schema gives is accepted again by that schema and given back as it is. The second
run of an object sees at each field what the first run gave there: nothing where it gave nothing,
and among the undeclared entries just those that were kept.
-/
namespace Schemata

/-! ## Objects read again -/

section Entries
variable {shape : List (String × Schema)} {o : String × Schema → Option Value}
variable {entries : List (String × Value)}

theorem exists_of_mem_produced {e : String × Value} (h : e ∈ produced shape o) :
    e.1 ∈ shape.map Prod.fst := by
  obtain ⟨f, hf, hname, _⟩ := mem_produced h
  exact hname ▸ List.mem_map_of_mem hf

theorem lookup_produced (hn : (shape.map Prod.fst).Nodup) {f : String × Schema} (hf : f ∈ shape) :
    (produced shape o).lookup f.1 = o f := by
  induction shape with
  | nil => cases hf
  | cons g shape ih =>
    obtain ⟨hg, hn⟩ := List.nodup_cons.mp hn
    have hr : (produced shape o).lookup g.1 = none := by
      refine List.lookup_eq_none_iff.mpr fun e he => ?_
      have hm := exists_of_mem_produced he
      exact bne_iff_ne.mpr fun h => hg (h ▸ hm)
    have hc : produced (g :: shape) o =
        ((o g).map fun v => (g.1, v)).toList ++ produced shape o := by
      cases h : o g <;> simp [produced, h]
    rcases List.mem_cons.mp hf with rfl | hf
    · cases h : o f with
      | none => simpa [hc, h] using hr
      | some v => simp [hc, h]
    · have hne : (f.1 == g.1) = false :=
        beq_eq_false_iff_ne.mpr fun h => hg (h ▸ List.mem_map_of_mem hf)
      cases h : o g with
      | none => simpa [hc, h] using ih hn hf
      | some v => simpa [hc, h, List.lookup_cons, hne] using ih hn hf

theorem lookup_undeclared (entries : List (String × Value)) {names : List String} {name : String}
    (h : name ∈ names) :
    (Schema.undeclared names entries).lookup name = none := by
  refine List.lookup_eq_none_iff.mpr fun e he => ?_
  have hm := (List.mem_filter.mp he).2
  refine bne_iff_ne.mpr ?_
  rintro rfl
  simp [h] at hm

theorem undeclared_produced (shape : List (String × Schema))
    (o : String × Schema → Option Value) :
    Schema.undeclared (shape.map Prod.fst) (produced shape o) = [] := by
  refine List.filter_eq_nil_iff.mpr fun e he => ?_
  simpa using exists_of_mem_produced he

theorem kept_kept (u : UnknownKeys) : u.kept (u.kept entries) = u.kept entries := by
  cases u <;> rfl

theorem undeclared_output (u : UnknownKeys) :
    Schema.undeclared (shape.map Prod.fst)
        (produced shape o ++ u.kept (Schema.undeclared (shape.map Prod.fst) entries)) =
      u.kept (Schema.undeclared (shape.map Prod.fst) entries) := by
  have hp := undeclared_produced shape o
  rw [Schema.undeclared, List.filter_append]
  change Schema.undeclared _ _ ++ _ = _
  rw [hp]
  cases u with
  | strip | strict => rfl
  | passthrough => simp [UnknownKeys.kept, Schema.undeclared]

theorem lookup_output (hn : (shape.map Prod.fst).Nodup) (u : UnknownKeys) {f : String × Schema}
    (hf : f ∈ shape) :
    (produced shape o ++ u.kept (Schema.undeclared (shape.map Prod.fst) entries)).lookup f.1 =
      o f := by
  have hu := lookup_undeclared entries (List.mem_map_of_mem (f := Prod.fst) hf)
  rw [List.lookup_append, lookup_produced hn hf]
  cases u with
  | strip | strict => simp [UnknownKeys.kept]
  | passthrough => simp [UnknownKeys.kept, hu]

end Entries

namespace Schema

/-- What a node must be like for its outputs to be read again: nothing is mapped or chosen, no
elements are compared (stripped elements may be equal), a shape names no field twice, and a default
is accepted unchanged. -/
def Settles : Schema → Prop
  | .custom _ _ | .transform _ _ | .union _ _ => False
  | .array _ rules => ∀ r ∈ rules.rules, r.constraint ≠ .unique
  | .object shape _ _ => Entries.Distinct shape
  | .withDefault inner value =>
    (inner.validate (some value) Path.root).outcome = .ok (.ok (some value))
  | _ => True

theorem native_of_settles {s : Schema} (hs : s.Every Settles) : s.Native :=
  hs.native fun _ _ => id

theorem array_fixed {element : Schema} {rules : ArrayRules} {items : List Value} {y : Value}
    {p : Path} (he : element.Native) (hu : ∀ r ∈ rules.rules, r.constraint ≠ .unique)
    (ih : ∀ {x v p}, (element.validate x p).outcome = .ok (.ok (some v)) →
      ∀ q, (element.validate (some v) q).outcome = .ok (.ok (some v)))
    (h : (validate (.array element rules) (some (.array items)) p).outcome = .ok (.ok (some y)))
    (q : Path) :
    (validate (.array element rules) (some y) q).outcome = .ok (.ok (some y)) := by
  obtain ⟨hr, o, ho, hy⟩ := Call.array_ok_iff.mp h
  cases hy
  refine Call.array_ok_iff.mpr ⟨?_, Call.input, ?_, ?_⟩
  · intro r hm
    rw [← hr r hm]
    exact ArrayConstraint.violation_congr (hu r hm) (by simp [Call.parts])
  · intro d hd
    obtain ⟨⟨v, i⟩, hv, rfl⟩ := List.mem_map.mp hd
    obtain ⟨e, hm, rfl⟩ := List.mem_map.mp (List.fst_mem_of_mem_zipIdx hv)
    obtain ⟨item, _, rfl⟩ := List.mem_map.mp hm
    obtain ⟨w, hw⟩ := present_of_present he (ho _ hm)
    have hr := ho _ hm
    rw [hw] at hr ⊢
    exact ih hr _
  · simp [Call.parts, Function.comp_def]

theorem object_fixed {shape : List (String × Schema)} {unknownKeys : UnknownKeys}
    {message : Option String} {entries : List (String × Value)} {y : Value} {p : Path}
    (hs : ∀ f ∈ shape, f.2.Native) (hn : Entries.Distinct shape)
    (ih : ∀ f ∈ shape, ∀ {x v p}, (f.2.validate x p).outcome = .ok (.ok (some v)) →
      ∀ q, (f.2.validate (some v) q).outcome = .ok (.ok (some v)))
    (h : (validate (.object shape unknownKeys message) (some (.object entries)) p).outcome =
      .ok (.ok (some y))) (q : Path) :
    (validate (.object shape unknownKeys message) (some y) q).outcome = .ok (.ok (some y)) := by
  obtain ⟨o, ho, hu, hy⟩ := Call.object_ok_iff.mp h
  cases hy
  refine Call.object_ok_iff.mpr ⟨o, ?_, ?_, ?_⟩
  · intro f hf
    rw [lookup_output hn unknownKeys hf]
    have hr := ho f hf
    cases hof : o f with
    | some v =>
      rw [hof] at hr
      exact ih f hf hr _
    | none =>
      rw [hof] at hr
      cases hx : entries.lookup f.1 with
      | none => exact accepts_anywhere (hs f hf) (hx ▸ hr) _
      | some v =>
        rw [hx] at hr
        obtain ⟨w, hw⟩ := present_of_present (hs f hf) hr
        cases hw
  · intro hstrict
    rw [undeclared_output, hu hstrict, hstrict]
    rfl
  · rw [undeclared_output, kept_kept]

/-- One step, for nullable schemas: what the inner schema gives may be null itself. -/
theorem nullable_fixed {inner : Schema} {x : Option Value} {y : Value} {p : Path}
    (ih : ∀ {x v p}, (inner.validate x p).outcome = .ok (.ok (some v)) →
      ∀ q, (inner.validate (some v) q).outcome = .ok (.ok (some v)))
    (h : (validate (.nullable inner) x p).outcome = .ok (.ok (some y))) (q : Path) :
    (validate (.nullable inner) (some y) q).outcome = .ok (.ok (some y)) := by
  match x with
  | some .null =>
    cases h
    rfl
  | none | some (.bool _) | some (.number _) | some (.string _) | some (.array _)
  | some (.object _) =>
    have hi := ih h q
    cases y with
    | null => rfl
    | _ => exact hi

/-- One step, for checks: the check sees the same value again. -/
theorem refine_fixed {inner : Schema} {check : Check} {x : Option Value} {y : Value} {p : Path}
    (ih : ∀ {x v p}, (inner.validate x p).outcome = .ok (.ok (some v)) →
      ∀ q, (inner.validate (some v) q).outcome = .ok (.ok (some v)))
    (h : (validate (.refine inner check) x p).outcome = .ok (.ok (some y))) (q : Path) :
    (validate (.refine inner check) (some y) q).outcome = .ok (.ok (some y)) := by
  obtain ⟨w, hw, ha⟩ := Run.outcome_bind_eq_ok h
  rcases Callback.after_ok_iff.mp ha with ⟨_, hy⟩ | ⟨value, a, rfl, hc, hy⟩
  · cases hy
  · cases hy
    have hi := ih hw q
    show (inner.validate (some y) q >>= check.after q fun v _ => v).outcome = _
    rw [Run.bind_of_ok hi]
    exact Callback.after_ok_iff.mpr (.inr ⟨y, a, rfl, hc, rfl⟩)

/-- What a schema gives, it accepts again and gives back unchanged, in any place. -/
theorem validate_output_fixed {s : Schema} (hs : s.Every Settles) {x : Option Value} {y : Value}
    {p : Path} (h : (s.validate x p).outcome = .ok (.ok (some y))) (q : Path) :
    (s.validate (some y) q).outcome = .ok (.ok (some y)) := by
  induction hs generalizing x y p q with
  | @node s here below ih =>
    cases s with
    | custom name run | transform inner mapper | union options message => exact here.elim
    | string _ | number _ | boolean _ | literal _ _ | choice _ _ | null | undefined | void | any
    | unknown =>
      obtain rfl := eq_of_leaf_ok rfl h
      exact accepts_anywhere (.leaf rfl rfl) h q
    | array element rules =>
      have hm : element ∈ children (.array element rules) := List.mem_cons_self
      match x with
      | some (.array items) =>
        exact array_fixed (native_of_settles (below element hm)) here
          (fun hv q => ih element hm hv q) h q
      | none | some .null | some (.bool _) | some (.number _) | some (.string _)
      | some (.object _) => cases h
    | object shape unknownKeys message =>
      have hm : ∀ f ∈ shape, f.2 ∈ children (.object shape unknownKeys message) :=
        fun f hf => List.mem_map_of_mem hf
      match x with
      | some (.object entries) =>
        exact object_fixed (fun f hf => native_of_settles (below f.2 (hm f hf))) here
          (fun f hf _ _ _ hv q => ih f.2 (hm f hf) hv q) h q
      | none | some .null | some (.bool _) | some (.number _) | some (.string _)
      | some (.array _) => cases h
    | optional inner =>
      cases x with
      | none => cases h
      | some v => exact ih inner List.mem_cons_self h q
    | withDefault inner value =>
      have hm : inner ∈ children (.withDefault inner value) := List.mem_cons_self
      cases x with
      | none =>
        cases h
        exact accepts_anywhere (native_of_settles (below inner hm)) here q
      | some v => exact ih inner hm h q
    | nullable inner => exact nullable_fixed (fun hv q => ih inner List.mem_cons_self hv q) h q
    | boxed inner => exact ih inner List.mem_cons_self h q
    | refine inner check => exact refine_fixed (fun hv q => ih inner List.mem_cons_self hv q) h q

def settings : Schema :=
  .object
    [("name", .withDefault (.string .none) (.string "anonymous")),
      ("tags", .optional (.array (.nullable (.number .none)) .none)),
      ("extra", .object [] .passthrough none)]
    .strip none

theorem settles_settings : settings.Every Settles := by
  have hname : Every Settles (.withDefault (.string .none) (.string "anonymous")) :=
    .wrap (show Settles _ from rfl) rfl (.leaf trivial rfl)
  have htag : Every Settles (.nullable (.number .none)) := .wrap trivial rfl (.leaf trivial rfl)
  have htags : Every Settles (.array (.nullable (.number .none)) .none) :=
    .wrap (List.forall_mem_nil _) rfl htag
  have hextra : Every Settles (.object [] .passthrough none) := .leaf List.nodup_nil rfl
  have hnames : Settles settings := by simp [settings, Settles, Entries.Distinct]
  refine .node hnames ?_
  exact List.forall_mem_cons.mpr ⟨hname, List.forall_mem_cons.mpr
    ⟨.wrap trivial rfl htags, List.forall_mem_singleton.mpr hextra⟩⟩

theorem validate_output_fixed_settings :
    settings.Every Settles ∧
      (settings.validate (some (.object [("extra", .object [("k", .bool true)]),
        ("tags", .array [.null, .int 2]), ("other", .null)])) [.key "body"]).outcome =
        .ok (.ok (some (.object [("name", .string "anonymous"), ("tags", .array [.null, .int 2]),
          ("extra", .object [("k", .bool true)])]))) ∧
      (settings.validate (some (.object [("name", .string "anonymous"),
        ("tags", .array [.null, .int 2]), ("extra", .object [("k", .bool true)])])) []).outcome =
        .ok (.ok (some (.object [("name", .string "anonymous"), ("tags", .array [.null, .int 2]),
          ("extra", .object [("k", .bool true)])]))) := by
  have h : (settings.validate (some (.object [("extra", .object [("k", .bool true)]),
      ("tags", .array [.null, .int 2]), ("other", .null)])) [.key "body"]).outcome =
      .ok (.ok (some (.object [("name", .string "anonymous"), ("tags", .array [.null, .int 2]),
        ("extra", .object [("k", .bool true)])]))) := rfl
  exact ⟨settles_settings, h, validate_output_fixed settles_settings h []⟩

end Schema
end Schemata
