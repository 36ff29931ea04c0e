import Schemata.Schema.Build

/-! # Stacks of presence wrappers

Optional, nullable and default wrappers, in any order and number, come to at most two: the outermost
one that decides on absent inputs, and one nullable. All other inputs go through the whole stack
unchanged.
-/
namespace Schemata

/-- A wrapper that decides on absent inputs or on null. -/
inductive Presence
  | optional
  | nullable
  | withDefault (value : Value)

namespace Presence

def wrap : Presence → Schema → Schema
  | .optional, s => .optional s
  | .nullable, s => .nullable s
  | .withDefault value, s => .withDefault s value

def onAbsent? : Presence → Option (Option Value)
  | .optional => some none
  | .nullable => none
  | .withDefault value => some (some value)

def isNullable : Presence → Bool
  | .nullable => true
  | .optional | .withDefault _ => false

/-- The outermost wrapper that decides on absent inputs, around a nullable if there is one. -/
def normal (stack : List Presence) : List Presence :=
  (stack.find? fun w => !w.isNullable).toList ++ if stack.any isNullable then [.nullable] else []

theorem isNullable_iff {w : Presence} : w.isNullable = true ↔ w = .nullable := by
  cases w <;> simp [isNullable]

theorem onAbsent?_eq_none_iff {w : Presence} : w.onAbsent? = none ↔ w = .nullable := by
  cases w <;> simp [onAbsent?]

theorem exists_onAbsent? {w : Presence} (h : w ≠ .nullable) : ∃ out, w.onAbsent? = some out :=
  Option.ne_none_iff_exists'.mp (mt onAbsent?_eq_none_iff.mp h)

theorem any_isNullable_iff {stack : List Presence} :
    stack.any isNullable = true ↔ .nullable ∈ stack := by
  simp [isNullable_iff]

theorem findSome?_onAbsent? (stack : List Presence) :
    stack.findSome? onAbsent? = (stack.find? fun w => !w.isNullable).bind onAbsent? := by
  induction stack with
  | nil => rfl
  | cons w stack ih =>
    cases w with
    | nullable => exact ih
    | optional | withDefault value => rfl

theorem findSome?_normal (stack : List Presence) :
    (normal stack).findSome? onAbsent? = stack.findSome? onAbsent? := by
  have hn : List.findSome? onAbsent? (if stack.any isNullable then [.nullable] else []) = none := by
    split <;> rfl
  rw [normal, List.findSome?_append, hn, Option.or_none, findSome?_onAbsent? stack]
  cases (stack.find? fun w => !w.isNullable) <;> simp

theorem mem_normal_iff {stack : List Presence} : .nullable ∈ normal stack ↔ .nullable ∈ stack := by
  have hf : .nullable ∉ (stack.find? fun w => !w.isNullable).toList := by
    intro h
    have hw := List.find?_some (Option.mem_toList.mp h)
    cases hw
  rw [normal, List.mem_append, or_iff_right hf]
  by_cases h : .nullable ∈ stack
  · rw [if_pos (any_isNullable_iff.mpr h)]
    simp [h]
  · rw [if_neg (mt any_isNullable_iff.mp h)]
    simp [h]

end Presence

namespace Schema

/-- A schema in a stack of wrappers, the outermost first. -/
def wrapped (s : Schema) (stack : List Presence) : Schema := stack.foldr Presence.wrap s

section Wrapped
variable {s : Schema} {p : Path} {stack others : List Presence}

theorem validate_wrap_none (w : Presence) (s : Schema) (p : Path) :
    (w.wrap s).validate none p =
      w.onAbsent?.elim (s.validate none p) fun out => pure (.ok out) := by
  cases w <;> rfl

theorem validate_wrap_null {w : Presence} (h : w ≠ .nullable) (s : Schema) (p : Path) :
    (w.wrap s).validate (some .null) p = s.validate (some .null) p := by
  cases w with
  | nullable => exact absurd rfl h
  | optional | withDefault value => rfl

theorem validate_wrap_of_ne {v : Value} (h : v ≠ .null) (w : Presence) (s : Schema) (p : Path) :
    (w.wrap s).validate (some v) p = s.validate (some v) p := by
  cases w with
  | nullable => exact validate_nullable fun hv => h (Option.some.inj hv)
  | optional | withDefault value => rfl

theorem validate_wrapped_none (s : Schema) (stack : List Presence) (p : Path) :
    (s.wrapped stack).validate none p =
      (stack.findSome? Presence.onAbsent?).elim (s.validate none p) fun out => pure (.ok out) := by
  induction stack with
  | nil => rfl
  | cons w stack ih =>
    have hw : (s.wrapped (w :: stack)).validate none p = _ := validate_wrap_none w _ p
    rw [hw, List.findSome?_cons]
    cases w.onAbsent? with
    | none => exact ih
    | some out => rfl

theorem validate_wrapped_null_of_mem (h : .nullable ∈ stack) :
    (s.wrapped stack).validate (some .null) p = pure (.ok (some .null)) := by
  induction stack with
  | nil => cases h
  | cons w stack ih =>
    cases w with
    | nullable => rfl
    | optional | withDefault value =>
      have hm : .nullable ∈ stack := by simpa using h
      exact ih hm

theorem validate_wrapped_null_of_not_mem (h : .nullable ∉ stack) :
    (s.wrapped stack).validate (some .null) p = s.validate (some .null) p := by
  induction stack with
  | nil => rfl
  | cons w stack ih =>
    obtain ⟨hw, hs⟩ := List.ne_and_not_mem_of_not_mem_cons h
    exact (validate_wrap_null hw.symm _ p).trans (ih hs)

theorem validate_wrapped_of_ne {v : Value} (h : v ≠ .null) (s : Schema) (stack : List Presence)
    (p : Path) : (s.wrapped stack).validate (some v) p = s.validate (some v) p := by
  induction stack with
  | nil => rfl
  | cons w stack ih => exact (validate_wrap_of_ne h w _ p).trans ih

/-- Two stacks do the same when they decide alike on absent inputs and on null. -/
theorem validate_wrapped_congr
    (ha : stack.findSome? Presence.onAbsent? = others.findSome? Presence.onAbsent?)
    (hn : .nullable ∈ stack ↔ .nullable ∈ others) (s : Schema) (x : Option Value) (p : Path) :
    (s.wrapped stack).validate x p = (s.wrapped others).validate x p := by
  match x with
  | none => rw [validate_wrapped_none, validate_wrapped_none, ha]
  | some .null =>
    by_cases h : .nullable ∈ stack
    · rw [validate_wrapped_null_of_mem h, validate_wrapped_null_of_mem (hn.mp h)]
    · rw [validate_wrapped_null_of_not_mem h, validate_wrapped_null_of_not_mem (mt hn.mpr h)]
  | some (.bool _) | some (.number _) | some (.string _) | some (.array _) | some (.object _) =>
    rw [validate_wrapped_of_ne (by simp), validate_wrapped_of_ne (by simp)]

/-- What a stack of wrappers does on any input, and which stacks do the same. -/
structure NormalWrapping (s : Schema) (stack : List Presence) (p : Path) : Prop where
  absent : (s.wrapped stack).validate none p =
    (stack.findSome? Presence.onAbsent?).elim (s.validate none p) fun out => pure (.ok out)
  null_accepted : .nullable ∈ stack →
    (s.wrapped stack).validate (some .null) p = pure (.ok (some .null))
  null_given : .nullable ∉ stack →
    (s.wrapped stack).validate (some .null) p = s.validate (some .null) p
  other_given : ∀ v, v ≠ .null → (s.wrapped stack).validate (some v) p = s.validate (some v) p
  normal : ∀ x, (s.wrapped stack).validate x p = (s.wrapped (Presence.normal stack)).validate x p
  repeated : ∀ outer w inner, stack = outer ++ w :: w :: inner → ∀ x,
    (s.wrapped stack).validate x p = (s.wrapped (outer ++ w :: inner)).validate x p
  swapped : ∀ outer w inner, stack = outer ++ .nullable :: w :: inner → ∀ x,
    (s.wrapped stack).validate x p = (s.wrapped (outer ++ w :: .nullable :: inner)).validate x p
  outermost : ∀ outer w inner, stack = outer ++ w :: inner → w ≠ .nullable → ∀ x,
    (s.wrapped stack).validate x p =
      (s.wrapped (outer ++ w :: inner.filter Presence.isNullable)).validate x p

end Wrapped
end Schema

/-- A schema in a stack of wrappers. An absent input is decided by the outermost wrapper that is
optional or a default, as nothing or as that default, and otherwise given to the schema. Null is
accepted as it is where some wrapper is nullable, and otherwise given to the schema, as is every
other input. So the stack does what its normal form does: a wrapper twice in a row is that wrapper
once, a nullable changes places with every wrapper, and inside a wrapper that decides on absent
inputs only the nullables matter. -/
theorem presence_wrappers_normalise (s : Schema) (stack : List Presence) (p : Path) :
    s.NormalWrapping stack p where
  absent := Schema.validate_wrapped_none s stack p
  null_accepted h := Schema.validate_wrapped_null_of_mem h
  null_given h := Schema.validate_wrapped_null_of_not_mem h
  other_given v h := Schema.validate_wrapped_of_ne h s stack p
  normal x := Schema.validate_wrapped_congr (Presence.findSome?_normal stack).symm
    Presence.mem_normal_iff.symm s x p
  repeated := by
    rintro outer w inner rfl x
    refine Schema.validate_wrapped_congr ?_ (by simp) s x p
    simp only [List.findSome?_append, List.findSome?_cons]
    cases w.onAbsent? <;> rfl
  swapped := by
    rintro outer w inner rfl x
    refine Schema.validate_wrapped_congr ?_ (by simp) s x p
    simp only [List.findSome?_append, List.findSome?_cons, Presence.onAbsent?]
  outermost := by
    rintro outer w inner rfl hw x
    obtain ⟨out, ho⟩ := Presence.exists_onAbsent? hw
    refine Schema.validate_wrapped_congr ?_ (by simp [Presence.isNullable_iff]) s x p
    simp only [List.findSome?_append, List.findSome?_cons, ho]

/-- A watched number in a default inside an optional, between nullables. -/
def layered : List Presence := [.nullable, .optional, .nullable, .withDefault (.int 8)]

theorem presence_wrappers_normalise_layered :
    Presence.normal layered = [.optional, .nullable] ∧
      (Schema.wrapped (.watched "n" .anyNumber "number") layered).validate none [] =
        ⟨[], .ok (.ok none)⟩ ∧
      (Schema.wrapped (.watched "n" .anyNumber "number") layered).validate (some .null) [] =
        ⟨[], .ok (.ok (some .null))⟩ ∧
      (Schema.wrapped (.watched "n" .anyNumber "number") layered).validate (some (.int 3)) [] =
        ⟨[.visited "n" [] (some (.int 3))], .ok (.ok (some (.int 3)))⟩ ∧
      ∀ x, (Schema.wrapped .anyNumber layered).validate x [] =
        (Schema.optional (.nullable .anyNumber)).validate x [] := by
  have hwatched := presence_wrappers_normalise (.watched "n" .anyNumber "number") layered []
  have hnumber := presence_wrappers_normalise .anyNumber layered []
  exact ⟨rfl, hwatched.absent, hwatched.null_accepted List.mem_cons_self,
    hwatched.other_given (.int 3) (by simp [Value.int]), hnumber.normal⟩

end Schemata
