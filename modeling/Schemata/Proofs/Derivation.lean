import Mathlib.Data.List.Nodup
import Schemata.Schema.Build

/-! # Derived object schemas

The operations that derive one object schema from another are operations on its shape, and shapes
are known by the order of their names and by what is found under each. One step keeps some of the
fields, may revise these, and then writes the fields that it declares: a field that is there is
written in its place, and a new one after all that are kept. So over any number of steps the names
stand in the order in which they came to stay.
-/
namespace Schemata

namespace ObjectSchema

/-! ## Laws of the operations -/

/-- How the operations on shapes go through each other. -/
structure ShapeLaws (a b c : ObjectSchema) (names others : List String) : Prop where
  extend_assoc : (a.extend b).extend c = a.extend (b.extend c)
  without_extend : (a.extend b).without names = (a.without names).extend (b.without names)
  pick_extend : (a.extend b).pick names = (a.pick names).extend (b.pick names)
  partialShape_extend : (a.extend b).partialShape = a.partialShape.extend b.partialShape
  without_without : (a.without names).without others = a.without (names ++ others)
  without_eq_pick :
    a.without names = a.pick (a.shape.names.filter fun name => !names.contains name)

theorem without_eq (o : ObjectSchema) (names : List String) :
    o.without names = o.withShape (List.filter (fun f => !names.contains f.1) o.shape) :=
  congrArg o.withShape (Entries.foldl_erase names o.shape)

theorem without_eq_pick_others (o : ObjectSchema) (names : List String) :
    o.without names = o.pick (o.shape.names.filter fun name => !names.contains name) := by
  rw [without_eq, pick]
  refine congrArg o.withShape (List.filter_congr fun f hf => ?_)
  have hm : f.1 ∈ o.shape.names := List.mem_map_of_mem hf
  rw [Bool.eq_iff_iff, List.contains_iff_mem, List.mem_filter]
  exact ⟨fun h => ⟨hm, h⟩, fun h => h.2⟩

theorem shapeLaws {a b c : ObjectSchema} (ha : a.shape.Distinct) (hb : b.shape.Distinct)
    (hc : c.shape.Distinct) (names others : List String) : ShapeLaws a b c names others where
  extend_assoc := congrArg a.withShape (Entries.insertAll_assoc ha hb hc)
  without_extend := by
    rw [without_eq, without_eq, without_eq]
    exact congrArg a.withShape (Entries.filter_insertAll ha hb fun name => !names.contains name)
  pick_extend :=
    congrArg a.withShape (Entries.filter_insertAll ha hb fun name => names.contains name)
  partialShape_extend := congrArg a.withShape (Entries.mapValues_insertAll ha hb Schema.optional)
  without_without := congrArg a.withShape List.foldl_append.symm
  without_eq_pick := a.without_eq_pick_others names

/-! ## One step -/

/-- A call that derives an object schema. -/
inductive Change
  | field (name : String) (schema : Schema)
  | extend (other : ObjectSchema) (distinct : other.shape.Distinct)
  | pick (names : List String)
  | without (names : List String)
  | partialShape

namespace Change

def apply (o : ObjectSchema) : Change → ObjectSchema
  | .field name schema => o.field name schema
  | .extend other _ => o.extend other
  | .pick names => o.pick names
  | .without names => o.without names
  | .partialShape => o.partialShape

/-- The fields that a step declares. -/
def declared : Change → Entries Schema
  | .field name schema => [(name, schema)]
  | .extend other _ => other.shape
  | .pick _ | .without _ | .partialShape => []

def removes : Change → String → Bool
  | .pick names, name => !names.contains name
  | .without names, name => names.contains name
  | .field _ _, _ | .extend _ _, _ | .partialShape, _ => false

/-- What a step makes of the schema of a field that it keeps. -/
def revised : Change → Schema → Schema
  | .partialShape, schema => .optional schema
  | .field _ _, schema | .extend _ _, schema | .pick _, schema | .without _, schema => schema

variable {o : ObjectSchema} {c : Change} {m n name : String} {schema : Schema}

theorem distinct_declared (c : Change) : c.declared.Distinct := by
  cases c with
  | field name schema => exact List.nodup_singleton name
  | extend other distinct => exact distinct
  | pick names | without names | partialShape => exact List.nodup_nil

theorem removes_of_declared (h : name ∈ c.declared.names) (other : String) :
    c.removes other = false := by
  cases c with
  | field name schema | extend other distinct | partialShape => rfl
  | pick names | without names => cases h

theorem shape_apply (c : Change) (o : ObjectSchema) :
    (c.apply o).shape = Entries.insertAll
      (Entries.mapValues c.revised (List.filter (fun f => !c.removes f.1) o.shape))
      c.declared := by
  have hid : ∀ es : Entries Schema, Entries.mapValues (fun schema => schema) es = es := List.map_id
  have hall : List.filter (fun _ => !false) o.shape = o.shape :=
    List.filter_eq_self.mpr fun _ _ => rfl
  cases c with
  | field name schema =>
    show o.shape.insert name schema = (Entries.mapValues (fun schema => schema)
      (List.filter (fun _ => !false) o.shape)).insertAll [(name, schema)]
    rw [hid, hall]
    rfl
  | extend other distinct =>
    show o.shape.insertAll other.shape = (Entries.mapValues (fun schema => schema)
      (List.filter (fun _ => !false) o.shape)).insertAll other.shape
    rw [hid, hall]
  | pick names =>
    show List.filter (fun f => names.contains f.1) o.shape = Entries.mapValues
      (fun schema => schema) (List.filter (fun f => !!names.contains f.1) o.shape)
    simp only [hid, Bool.not_not]
  | without names =>
    show (o.without names).shape = Entries.mapValues
      (fun schema => schema) (List.filter (fun f => !names.contains f.1) o.shape)
    rw [hid, shape_without]
  | partialShape =>
    show Entries.mapValues Schema.optional o.shape = Entries.mapValues
      Schema.optional (List.filter (fun _ => !false) o.shape)
    rw [hall]

theorem names_apply (c : Change) (o : ObjectSchema) :
    (c.apply o).shape.names = o.shape.names.filter (fun name => !c.removes name) ++
      c.declared.names.filter fun name =>
        !(o.shape.names.filter fun name => !c.removes name).contains name := by
  rw [shape_apply, Entries.names_insertAll c.distinct_declared, Entries.names_mapValues,
    Entries.names_filter fun name => !c.removes name]

theorem get?_apply (c : Change) (o : ObjectSchema) (name : String) :
    (c.apply o).shape.get? name = (c.declared.get? name).or
      (if c.removes name then none else (o.shape.get? name).map c.revised) := by
  rw [shape_apply, Entries.get?_insertAll c.distinct_declared, Entries.get?_mapValues,
    Entries.get?_filter fun name => !c.removes name]
  cases c.removes name <;> rfl

theorem distinct_apply (ho : o.shape.Distinct) (c : Change) : (c.apply o).shape.Distinct := by
  rw [shape_apply]
  exact ((ho.filter _).mapValues _).insertAll _

theorem names_apply_of_declared (h : name ∈ c.declared.names) (o : ObjectSchema) :
    (c.apply o).shape.names = o.shape.names ++
      c.declared.names.filter fun name => !o.shape.names.contains name := by
  have hall : o.shape.names.filter (fun name => !c.removes name) = o.shape.names :=
    List.filter_eq_self.mpr fun other _ => by rw [removes_of_declared h other]; rfl
  rw [names_apply, hall]

theorem get?_apply_of_declared (h : (name, schema) ∈ c.declared) :
    (c.apply o).shape.get? name = some schema := by
  have hd : c.declared.get? name = some schema := c.distinct_declared.lookup_of_mem h
  rw [get?_apply, hd]
  rfl

theorem not_mem_apply_of_removes (h : c.removes name = true) : name ∉ (c.apply o).shape.names := by
  have hd : name ∉ c.declared.names := fun hm => by
    rw [removes_of_declared hm] at h
    cases h
  rw [names_apply, List.mem_append, List.mem_filter, List.mem_filter, h]
  rintro (⟨_, hf⟩ | ⟨hm, _⟩)
  · cases hf
  · exact hd hm

theorem not_mem_apply (h : name ∉ o.shape.names) (hd : name ∉ c.declared.names) :
    name ∉ (c.apply o).shape.names := by
  rw [names_apply, List.mem_append, List.mem_filter, List.mem_filter]
  rintro (⟨hm, _⟩ | ⟨hm, _⟩)
  · exact h hm
  · exact hd hm

/-- One step leaves a name before another one, whether that was there or comes now. -/
theorem order_apply (hm : m ∈ o.shape.names)
    (hn : n ∈ o.shape.names → [m, n].Sublist o.shape.names) (hr : c.removes m = false) :
    m ∈ (c.apply o).shape.names ∧
      (n ∈ (c.apply o).shape.names → [m, n].Sublist (c.apply o).shape.names) := by
  have hkept : m ∈ o.shape.names.filter fun name => !c.removes name :=
    List.mem_filter.mpr ⟨hm, by rw [hr]; rfl⟩
  rw [names_apply]
  refine ⟨List.mem_append_left _ hkept, fun h => ?_⟩
  -- The other name is one that is kept, and the order with it, or it comes after all that are kept.
  rcases List.mem_append.mp h with h | h
  · obtain ⟨hmem, hk⟩ := List.mem_filter.mp h
    have hpair := (hn hmem).filter fun name => !c.removes name
    have hboth : [m, n].filter (fun name => !c.removes name) = [m, n] := by simp [hr, hk]
    rw [hboth] at hpair
    exact hpair.trans (List.sublist_append_left _ _)
  · have hleft := List.singleton_sublist.mpr hkept
    exact hleft.append (List.singleton_sublist.mpr h)

end Change

/-! ## Any number of steps -/

def changed (o : ObjectSchema) (changes : List Change) : ObjectSchema :=
  changes.foldl Change.apply o

section Changed
variable {o : ObjectSchema} {m n name : String} {schema : Schema} {later : List Change}

theorem changed_append (o : ObjectSchema) (changes later : List Change) :
    o.changed (changes ++ later) = (o.changed changes).changed later := List.foldl_append

theorem distinct_changed (ho : o.shape.Distinct) (changes : List Change) :
    (o.changed changes).shape.Distinct := by
  induction changes generalizing o with
  | nil => exact ho
  | cons c changes ih => exact ih (Change.distinct_apply ho c)

theorem changed_eq_withShape (o : ObjectSchema) (changes : List Change) :
    o.changed changes = o.withShape (o.changed changes).shape := by
  induction changes generalizing o with
  | nil => rfl
  | cons c changes ih =>
    have hi : o.changed (c :: changes) = (c.apply o).changed changes := rfl
    rw [hi, ih]
    cases c <;> rfl

theorem not_mem_changed (h : name ∉ o.shape.names)
    (hl : ∀ d ∈ later, name ∉ d.declared.names) : name ∉ (o.changed later).shape.names := by
  induction later generalizing o with
  | nil => exact h
  | cons d later ih =>
    obtain ⟨hd, hl⟩ := List.forall_mem_cons.mp hl
    exact ih (Change.not_mem_apply h hd) hl

/-- A schema stays, as it is revised, until its name is declared again or taken away. -/
theorem get?_changed_of_kept (h : o.shape.get? name = some schema)
    (hl : ∀ d ∈ later, name ∉ d.declared.names ∧ d.removes name = false) :
    (o.changed later).shape.get? name =
      some (later.foldl (fun schema d => d.revised schema) schema) := by
  induction later generalizing o schema with
  | nil => exact h
  | cons d later ih =>
    obtain ⟨⟨hd, hr⟩, hl⟩ := List.forall_mem_cons.mp hl
    refine ih ?_ hl
    rw [Change.get?_apply, Entries.get?_eq_none_iff.mpr hd, hr, h]
    rfl

/-- While a name stays, it stands before all that come after it. -/
theorem order_changed (hm : m ∈ o.shape.names)
    (hn : n ∈ o.shape.names → [m, n].Sublist o.shape.names)
    (hl : ∀ d ∈ later, d.removes m = false) (h : n ∈ (o.changed later).shape.names) :
    [m, n].Sublist (o.changed later).shape.names := by
  induction later generalizing o with
  | nil => exact hn h
  | cons d later ih =>
    obtain ⟨hr, hl⟩ := List.forall_mem_cons.mp hl
    obtain ⟨hm', hn'⟩ := Change.order_apply hm hn hr
    exact ih hm' hn' hl h

end Changed

/-- What is known after any steps, of the result and of further steps. -/
structure Derived (o : ObjectSchema) (changes : List Change) : Prop where
  distinct : (o.changed changes).shape.Distinct
  unknownKeys : (o.changed changes).unknownKeys = o.unknownKeys
  message : (o.changed changes).message = o.message
  redeclared : ∀ (c : Change) name schema, (name, schema) ∈ c.declared →
    name ∈ (o.changed changes).shape.names →
      (o.changed (changes ++ [c])).shape.names.idxOf name =
        (o.changed changes).shape.names.idxOf name ∧
      (o.changed (changes ++ [c])).shape.get? name = some schema
  removed : ∀ (c : Change) name between, c.removes name = true →
    (∀ d ∈ between, name ∉ d.declared.names) →
      name ∉ (o.changed (changes ++ c :: between)).shape.names ∧
      (∀ schema, ((o.changed (changes ++ c :: between)).field name schema).shape =
        (o.changed (changes ++ c :: between)).shape ++ [(name, schema)]) ∧
      ∀ d : Change, name ∈ d.declared.names → ∃ added, name ∈ added ∧
        (d.apply (o.changed (changes ++ c :: between))).shape.names =
          (o.changed (changes ++ c :: between)).shape.names ++ added
  newest : ∀ (c : Change) name schema later, (name, schema) ∈ c.declared →
    (∀ d ∈ later, name ∉ d.declared.names ∧ d.removes name = false) →
      (o.changed (changes ++ c :: later)).shape.get? name =
        some (later.foldl (fun schema d => d.revised schema) schema)
  in_order : ∀ m n later, m ∈ (o.changed changes).shape.names →
    n ∉ (o.changed changes).shape.names → (∀ d ∈ later, d.removes m = false) →
      n ∈ (o.changed (changes ++ later)).shape.names →
        [m, n].Sublist (o.changed (changes ++ later)).shape.names

theorem derived {o : ObjectSchema} (ho : o.shape.Distinct) (changes : List Change) :
    Derived o changes where
  distinct := distinct_changed ho changes
  unknownKeys := by
    rw [changed_eq_withShape]
    rfl
  message := by
    rw [changed_eq_withShape]
    rfl
  redeclared := by
    intro c name schema h hm
    have hnames := Change.names_apply_of_declared (List.mem_map_of_mem h) (o.changed changes)
    rw [changed_append]
    exact ⟨(congrArg _ hnames).trans (List.idxOf_append_of_mem hm), Change.get?_apply_of_declared h⟩
  removed := by
    intro c name between hr hb
    have habsent : name ∉ (o.changed (changes ++ c :: between)).shape.names := by
      rw [changed_append]
      exact not_mem_changed (o := c.apply (o.changed changes))
        (Change.not_mem_apply_of_removes hr) hb
    refine ⟨habsent, fun schema => Entries.alter_of_not_mem habsent _, fun d hd => ?_⟩
    exact ⟨_, List.mem_filter.mpr ⟨hd, by simpa using habsent⟩, Change.names_apply_of_declared hd _⟩
  newest := by
    intro c name schema later h hl
    rw [changed_append]
    have hthere : (c.apply (o.changed changes)).shape.get? name = some schema :=
      Change.get?_apply_of_declared h
    exact get?_changed_of_kept hthere hl
  in_order := by
    intro m n later hm hn hl h
    rw [changed_append] at h ⊢
    exact order_changed hm (fun hmem => absurd hmem hn) hl h

end ObjectSchema

/-- Three object schemas, some names and some further ones, and any steps from the first. The
operations on shapes go through each other, and after the steps no name is declared twice and the
policy and the message are those of the first schema. A name that is declared over keeps its place
and has the newest schema, a name that was taken away comes last when it is declared again, and in
general a name that stays stands before all that come after it. -/
theorem shape_operations_lawful {a b c : ObjectSchema} (ha : a.shape.Distinct)
    (hb : b.shape.Distinct) (hc : c.shape.Distinct) (names others : List String)
    (changes : List ObjectSchema.Change) :
    ObjectSchema.ShapeLaws a b c names others ∧ ObjectSchema.Derived a changes :=
  ⟨ObjectSchema.shapeLaws ha hb hc names others, ObjectSchema.derived ha changes⟩

def contact : ObjectSchema :=
  ((ObjectSchema.empty.field "number" .anyNumber).field "name" .anyString).field "mail" .anyString

def reachable : ObjectSchema :=
  (ObjectSchema.empty.field "phone" .anyString).field "name" (.optional .anyString)

theorem distinct_contact : contact.shape.Distinct ∧ reachable.shape.Distinct := by
  have hcontact : ObjectSchema.Built contact :=
    ((ObjectSchema.Built.empty.field _ _).field _ _).field _ _
  have hreachable : ObjectSchema.Built reachable := (ObjectSchema.Built.empty.field _ _).field _ _
  exact ⟨hcontact.distinct, hreachable.distinct⟩

def renamings : List ObjectSchema.Change :=
  [.extend reachable distinct_contact.2, .without ["name", "fax"], .partialShape,
    .field "name" .anyBoolean, .field "mail" .anyNumber]

theorem shape_operations_lawful_contact :
    contact.shape.Distinct ∧ reachable.shape.Distinct ∧
      (contact.extend reachable).shape.names = ["number", "name", "mail", "phone"] ∧
      (contact.changed renamings).shape.names = ["number", "mail", "phone", "name"] ∧
      (contact.changed renamings).shape.get? "mail" = some .anyNumber ∧
      (contact.changed renamings).shape.get? "phone" = some (.optional .anyString) ∧
      ObjectSchema.ShapeLaws contact reachable contact ["name", "name"] ["fax", "number"] ∧
      ObjectSchema.Derived contact renamings := by
  obtain ⟨ha, hb⟩ := distinct_contact
  obtain ⟨hlaws, hderived⟩ := shape_operations_lawful ha hb ha ["name", "name"] ["fax", "number"]
    renamings
  exact ⟨ha, hb, rfl, rfl, rfl, rfl, hlaws, hderived⟩

end Schemata
