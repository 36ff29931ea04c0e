import Mathlib.Data.List.Basic
import Schemata.Proofs.Call

/-! # Undeclared entries and stripping schemas

Inputs are strip-equivalent under a schema when they differ only in the entries that its objects do
not declare and in the order of entries. Where all objects strip and no elements are compared, such
inputs are validated alike. Callbacks and unions are no exception: a callback sees only outputs,
which agree before it runs, and so the options of a union refuse or accept in both runs.
-/
namespace Schemata.Schema

/-- What a node must be like to see nothing of undeclared entries: an object strips them, and an
array does not compare its elements, which may hold some. -/
def Strips : Schema → Prop
  | .custom _ _ => False
  | .object _ unknownKeys _ => unknownKeys = .strip
  | .array _ rules => ∀ r ∈ rules.rules, r.constraint ≠ .unique
  | _ => True

/-- Equal inputs are equivalent under every schema. Two objects are when the same declared fields
are present with equivalent values, two arrays when they are equally long and equivalent element by
element. A union asks it of all its options, and any wrapper of what it wraps. -/
inductive StripEquivalent : Schema → Option Value → Option Value → Prop
  | refl (s : Schema) (x : Option Value) : StripEquivalent s x x
  | object {shape : List (String × Schema)} {unknownKeys : UnknownKeys} {message : Option String}
    {entries others : List (String × Value)}
    (present : ∀ f ∈ shape, (entries.lookup f.1).isSome = (others.lookup f.1).isSome)
    (fields : ∀ f ∈ shape, StripEquivalent f.2 (entries.lookup f.1) (others.lookup f.1)) :
    StripEquivalent (.object shape unknownKeys message) (some (.object entries))
      (some (.object others))
  | array {element : Schema} {rules : ArrayRules} {items others : List Value}
    (length : items.length = others.length)
    (elements : ∀ (i : Nat) (v w : Value), items[i]? = some v → others[i]? = some w →
      StripEquivalent element (some v) (some w)) :
    StripEquivalent (.array element rules) (some (.array items)) (some (.array others))
  | union {options : List Schema} {message : Option String} {x y : Option Value}
    (nonempty : options ≠ []) (every : ∀ o ∈ options, StripEquivalent o x y) :
    StripEquivalent (.union options message) x y
  | optional {inner : Schema} {x y : Option Value} (h : StripEquivalent inner x y) :
    StripEquivalent (.optional inner) x y
  | nullable {inner : Schema} {x y : Option Value} (h : StripEquivalent inner x y) :
    StripEquivalent (.nullable inner) x y
  | withDefault {inner : Schema} {value : Value} {x y : Option Value}
    (h : StripEquivalent inner x y) : StripEquivalent (.withDefault inner value) x y
  | refine {inner : Schema} {check : Check} {x y : Option Value}
    (h : StripEquivalent inner x y) : StripEquivalent (.refine inner check) x y
  | transform {inner : Schema} {mapper : Mapper} {x y : Option Value}
    (h : StripEquivalent inner x y) : StripEquivalent (.transform inner mapper) x y
  | boxed {inner : Schema} {x y : Option Value} (h : StripEquivalent inner x y) :
    StripEquivalent (.boxed inner) x y

namespace StripEquivalent
variable {s : Schema} {x y : Option Value}

theorem object_of_lookup_eq {shape : List (String × Schema)} {unknownKeys : UnknownKeys}
    {message : Option String} {entries others : List (String × Value)}
    (h : ∀ f ∈ shape, entries.lookup f.1 = others.lookup f.1) :
    StripEquivalent (.object shape unknownKeys message) (some (.object entries))
      (some (.object others)) := by
  apply StripEquivalent.object
  · intro f hf
    rw [h f hf]
  · intro f hf
    rw [h f hf]
    exact .refl _ _

/-- Equivalent inputs are of one kind, so wrappers that ask for absence or null cannot tell them
apart. -/
theorem kind_eq (h : StripEquivalent s x y) : Kind.of x = Kind.of y := by
  induction h with
  | refl s x => rfl
  | object _ _ _ => rfl
  | array _ _ _ => rfl
  | union nonempty _ ih =>
    obtain ⟨o, ho⟩ := List.exists_mem_of_ne_nil _ nonempty
    exact ih o ho
  | optional _ ih | nullable _ ih | withDefault _ ih | refine _ ih | transform _ ih
  | boxed _ ih => exact ih

theorem eq_none_iff (h : StripEquivalent s x y) : x = none ↔ y = none := by
  rw [← Kind.of_eq_undefined_iff, ← Kind.of_eq_undefined_iff, h.kind_eq]

theorem eq_null_iff (h : StripEquivalent s x y) : x = some .null ↔ y = some .null := by
  rw [← Kind.of_eq_null_iff, ← Kind.of_eq_null_iff, h.kind_eq]

end StripEquivalent

/-! ## One node on two inputs -/

section Node
variable {x y : Option Value} {p : Path}

theorem validateFields_congr {shape : List (String × Schema)}
    {entries others : List (String × Value)}
    (h : ∀ f ∈ shape, f.2.validate (entries.lookup f.1) (p.key f.1) =
      f.2.validate (others.lookup f.1) (p.key f.1)) :
    validateFields shape entries p = validateFields shape others p := by
  induction shape with
  | nil => rfl
  | cons f shape ih =>
    have hf := h f List.mem_cons_self
    have hi := ih fun g hg => h g (List.mem_cons_of_mem f hg)
    simp only [validateFields, hf, hi]

theorem firstAccepted_congr {options : List Schema}
    (h : ∀ o ∈ options, o.validate x p = o.validate y p) :
    firstAccepted options x p = firstAccepted options y p := by
  induction options with
  | nil => rfl
  | cons o options ih =>
    have ho := h o List.mem_cons_self
    have hi := ih fun o' ho' => h o' (List.mem_cons_of_mem o ho')
    simp only [firstAccepted, ho, hi]

theorem mapM_elements_congr {element : Schema} {items others : List Value}
    (hl : items.length = others.length)
    (h : ∀ (i : Nat) (v w : Value), items[i]? = some v → others[i]? = some w →
      ∀ q, element.validate (some v) q = element.validate (some w) q) :
    (items.zipIdx.mapM fun item => element.validate (some item.1) (p.index item.2)) =
      others.zipIdx.mapM fun item => element.validate (some item.1) (p.index item.2) := by
  apply Run.mapM_eq_of_map_eq
  apply List.ext_getElem
  · simpa using hl
  · intro i hi hi'
    have hv : i < items.length := by simpa using hi
    have hw : i < others.length := by simpa using hi'
    have he := h i items[i] others[i] (List.getElem?_eq_getElem hv) (List.getElem?_eq_getElem hw)
    simpa using he (p.index i)

/-- A verdict on an array looks at no element itself unless they are compared. -/
theorem verdict_elements_congr {rules : ArrayRules} {items others : List Value}
    (hu : ∀ r ∈ rules.rules, r.constraint ≠ .unique) (hl : items.length = others.length)
    (vs : List Verdict) : rules.verdict items p vs = rules.verdict others p vs := by
  have hi : rules.issues (·.violation items) p = rules.issues (·.violation others) p := by
    apply List.filterMap_congr
    intro r hr
    simp only [ArrayConstraint.violation_congr (hu r hr) hl]
  simp only [ArrayRules.verdict, hi]

theorem unionRefusal_congr {message : Option String} (h : Kind.of x = Kind.of y) :
    unionRefusal message x p = unionRefusal message y p := by
  simp only [unionRefusal, h]

end Node

/-- Inputs that differ only in what the objects of a stripping schema do not declare are validated
alike in every place: with the same output or the same issues, and with the same calls of
callbacks. -/
theorem validate_eq_of_stripEquivalent {s : Schema} (hs : s.Every Strips) {x y : Option Value}
    (h : StripEquivalent s x y) (p : Path) : s.validate x p = s.validate y p := by
  -- Not on the schema: `refl` may stop at any node, and a union relates the inputs once for each
  -- of its options.
  induction h generalizing p with
  | refl s x => rfl
  | @object shape unknownKeys message entries others _ _ ih =>
    obtain rfl : unknownKeys = .strip := hs.self
    have hf : validateFields shape entries p = validateFields shape others p := by
      apply validateFields_congr
      intro f hm
      exact ih f hm (hs.child (List.mem_map_of_mem hm)) (p.key f.1)
    simp only [validate, hf]
    rfl
  | @array element rules items others hl _ ih =>
    have he := mapM_elements_congr (p := p) hl fun i v w hv hw q =>
      ih i v w hv hw (hs.child List.mem_cons_self) q
    have hv := verdict_elements_congr (p := p) (show ∀ r ∈ rules.rules, _ from hs.self) hl
    simp only [validate, he, hv]
  | @union options message x y nonempty every ih =>
    have ho : firstAccepted options x p = firstAccepted options y p := by
      apply firstAccepted_congr
      intro o hm
      exact ih o hm (hs.child hm) p
    -- When all options refuse, the refusal quotes only the kind of the input.
    have hu : StripEquivalent (.union options message) x y := .union nonempty every
    simp only [validate, ho, unionRefusal_congr hu.kind_eq]
  | @optional inner x y h ih | @withDefault inner value x y h ih =>
    have hi := ih (hs.child List.mem_cons_self) p
    cases x with
    | none =>
      obtain rfl := h.eq_none_iff.mp rfl
      rfl
    | some v =>
      cases y with
      | none => cases h.eq_none_iff.mpr rfl
      | some w => exact hi
  | @nullable inner x y h ih =>
    by_cases hx : x = some .null
    · rw [hx, h.eq_null_iff.mp hx]
    · have hy : y ≠ some .null := fun hy => hx (h.eq_null_iff.mpr hy)
      rw [validate_nullable hx, validate_nullable hy]
      exact ih (hs.child List.mem_cons_self) p
  | refine _ ih | transform _ ih =>
    have hi := ih (hs.child List.mem_cons_self) p
    simp only [validate, hi]
  | boxed _ ih => exact ih (hs.child List.mem_cons_self) p

def team : Schema :=
  .object
    [("owner", .optional (.refine (.object [("name", .string .none)] .strip none)
        ⟨"known", fun _ => .accept ()⟩)),
      ("members", .array (.union [.object [("id", .number .none)] .strip none,
        .object [("name", .string .none)] .strip none] none) .none)]
    .strip none

def teamWith (more : List (String × Value)) : Option Value :=
  some (.object (more ++
    [("members", .array [.object (("name", .string "Bo") :: more)]),
      ("owner", .object (more ++ [("name", .string "Al")]))]))

theorem strips_team : team.Every Strips := by
  have hname : Every Strips (.object [("name", .string .none)] .strip none) :=
    .wrap rfl rfl (.leaf trivial rfl)
  have hid : Every Strips (.object [("id", .number .none)] .strip none) :=
    .wrap rfl rfl (.leaf trivial rfl)
  have howner : Every Strips (.optional (.refine (.object [("name", .string .none)] .strip none)
      ⟨"known", fun _ => .accept ()⟩)) := .wrap trivial rfl (.wrap trivial rfl hname)
  have hmember : Every Strips (.union [.object [("id", .number .none)] .strip none,
      .object [("name", .string .none)] .strip none] none) :=
    .node trivial (List.forall_mem_cons.mpr ⟨hid, List.forall_mem_singleton.mpr hname⟩)
  have hmembers := Every.wrap (s := .array _ .none) (List.forall_mem_nil _) rfl hmember
  exact .node rfl (List.forall_mem_cons.mpr ⟨howner, List.forall_mem_singleton.mpr hmembers⟩)

theorem stripEquivalent_team :
    StripEquivalent team (teamWith [("admin", .bool true), ("other", .null)]) (teamWith []) := by
  have howner : StripEquivalent (.object [("name", .string .none)] .strip none)
      (some (.object [("admin", .bool true), ("other", .null), ("name", .string "Al")]))
      (some (.object [("name", .string "Al")])) :=
    .object_of_lookup_eq (List.forall_mem_singleton.mpr rfl)
  have hmember : StripEquivalent
      (.union [.object [("id", .number .none)] .strip none,
        .object [("name", .string .none)] .strip none] none)
      (some (.object [("name", .string "Bo"), ("admin", .bool true), ("other", .null)]))
      (some (.object [("name", .string "Bo")])) := by
    apply StripEquivalent.union (List.cons_ne_nil _ _)
    refine List.forall_mem_cons.mpr ⟨?_, List.forall_mem_singleton.mpr ?_⟩
    · exact .object_of_lookup_eq (List.forall_mem_singleton.mpr rfl)
    · exact .object_of_lookup_eq (List.forall_mem_singleton.mpr rfl)
  apply StripEquivalent.object
  · exact List.forall_mem_cons.mpr ⟨rfl, List.forall_mem_singleton.mpr rfl⟩
  · refine List.forall_mem_cons.mpr ⟨.optional (.refine howner), List.forall_mem_singleton.mpr ?_⟩
    refine .array rfl fun i v w hv hw => ?_
    match i with
    | 0 =>
      cases hv
      cases hw
      exact hmember
    | i + 1 => cases hv

theorem validate_eq_of_stripEquivalent_team :
    team.Every Strips ∧
      StripEquivalent team (teamWith [("admin", .bool true), ("other", .null)]) (teamWith []) ∧
      team.validate (teamWith [("admin", .bool true), ("other", .null)]) [] =
        team.validate (teamWith []) [] ∧
      (team.validate (teamWith []) []).outcome =
        .ok (.ok (some (.object [("owner", .object [("name", .string "Al")]),
          ("members", .array [.object [("name", .string "Bo")]])]))) :=
  ⟨strips_team, stripEquivalent_team,
    validate_eq_of_stripEquivalent strips_team stripEquivalent_team [], rfl⟩

end Schemata.Schema
