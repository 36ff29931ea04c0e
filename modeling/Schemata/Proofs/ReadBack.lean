import Schemata.Proofs.ErrorIndex

/-! # Reading a tree of errors back

A node is written as an object with its own messages under a reserved name, and its children under
their keys. Where no child has the reserved name, the tree is read back from its value. A child with
that name is written over the messages of its node, and over nothing else: all nodes are still found
under their keys.
-/
namespace Schemata

namespace Value

def strings? : Value → Option (List String)
  | .array items => items.mapM fun v => match v with
    | .string s => some s
    | _ => none
  | _ => none

theorem strings?_strings (ss : List String) : (strings ss).strings? = some ss := by
  rw [strings, strings?]
  induction ss with
  | nil => rfl
  | cons s ss ih => rw [List.map_cons, List.mapM_cons, ih]; rfl

theorem strings_inj {ss ts : List String} (h : strings ss = strings ts) : ss = ts := by
  have hs := strings?_strings ss
  rw [h, strings?_strings] at hs
  exact (Option.some.inj hs).symm

def walk? (v : Value) : List String → Option Value
  | [] => some v
  | name :: names => (v.field? name).bind fun w => w.walk? names

end Value

namespace ErrorTree

mutual
/-- Read a node: its messages are under their own name, and every other entry is a child. -/
def ofValue? : Value → Option ErrorTree
  | .object entries => do
    let messages ← (entries.lookup ownKey).bind Value.strings?
    let children ← childrenOf? entries
    return .node messages children
  | _ => none

def childrenOf? : List (String × Value) → Option (List (String × ErrorTree))
  | [] => some []
  | (key, v) :: rest => do
    let others ← childrenOf? rest
    if key = ownKey then return others
    else return (key, ← ofValue? v) :: others
end

/-! ## The value of a node -/

variable {t n c : ErrorTree} {key : String} {keys : List String}

theorem childValues_eq (children : List (String × ErrorTree)) :
    childValues children = Entries.mapValues toValue children := by
  induction children with
  | nil => rfl
  | cons e children ih =>
    obtain ⟨key, child⟩ := e
    rw [childValues, ih]
    rfl

theorem distinct_childValues (h : t.keys.Nodup) : Entries.Distinct (childValues t.children) := by
  rw [childValues_eq]
  exact Entries.Distinct.mapValues h toValue

theorem toValue_eq (t : ErrorTree) : t.toValue =
    .object (Entries.insertAll [(ownKey, .strings t.errors)] (childValues t.children)) := by
  cases t with
  | node errors children => rfl

/-- A child is found under its key, and the messages under their own name if no child is. -/
theorem field?_toValue (h : t.keys.Nodup) (key : String) : t.toValue.field? key =
    ((t.get? key).map toValue).or (if key = ownKey then some (.strings t.errors) else none) := by
  have hg := Entries.get?_insertAll (distinct_childValues h) [(ownKey, .strings t.errors)] key
  rw [Entries.get?_cons] at hg
  rw [toValue_eq]
  refine hg.trans ?_
  rw [childValues_eq, Entries.get?_mapValues]
  rfl

theorem field?_child (h : t.keys.Nodup) (hc : t.get? key = some c) :
    t.toValue.field? key = some c.toValue := by
  rw [field?_toValue h, hc]
  rfl

theorem field?_own (h : t.keys.Nodup) (hown : ownKey ∉ t.keys) :
    t.toValue.field? ownKey = some (.strings t.errors) := by
  have hg : t.get? ownKey = none := Entries.get?_eq_none_iff.mpr hown
  rw [field?_toValue h, hg, if_pos rfl]
  rfl

theorem exists_entries_toValue (h : t.keys.Nodup) : ∃ entries, t.toValue = .object entries ∧
    Entries.names entries = ownKey :: t.keys.filter fun key => key ≠ ownKey := by
  refine ⟨_, toValue_eq t, ?_⟩
  rw [Entries.names_insertAll (distinct_childValues h), childValues_eq, Entries.names_mapValues]
  simp [Entries.names, keys]

/-! ## Every node -/

/-- A property of every node that keys lead to. -/
def Nodes (p : ErrorTree → Prop) (t : ErrorTree) : Prop :=
  ∀ keys n, t.walk? keys = some n → p n

section Nodes
variable {p : ErrorTree → Prop}

theorem Nodes.self (h : t.Nodes p) : p t := h [] t rfl

theorem Nodes.child (h : t.Nodes p) (hc : t.get? key = some c) : c.Nodes p := by
  intro keys n hn
  refine h (key :: keys) n ?_
  rw [walk?, hc]
  exact hn

end Nodes

/-- No two children have one key. -/
def Distinct (t : ErrorTree) : Prop := t.keys.Nodup

/-- Nor does a child have the name of the own messages. -/
def Plain (t : ErrorTree) : Prop := t.keys.Nodup ∧ ownKey ∉ t.keys

theorem walk?_toValue (h : t.Nodes Distinct) (hn : t.walk? keys = some n) :
    t.toValue.walk? keys = some n.toValue := by
  induction keys generalizing t with
  | nil =>
    cases hn
    rfl
  | cons key keys ih =>
    obtain ⟨c, hc, hn⟩ := Option.bind_eq_some_iff.mp hn
    rw [Value.walk?, field?_child h.self hc]
    exact ih (h.child hc) hn

/-! ## Trees without the reserved name -/

theorem toValue_of_plain {errors : List String} {children : List (String × ErrorTree)}
    (h : (node errors children).Plain) : (node errors children).toValue =
      .object ((ownKey, .strings errors) :: childValues children) := by
  have hd : Entries.Distinct ([(ownKey, .strings errors)] ++ childValues children) := by
    change (ownKey :: Entries.names (childValues children)).Nodup
    rw [childValues_eq, Entries.names_mapValues]
    exact List.nodup_cons.mpr ⟨h.2, h.1⟩
  rw [toValue_eq]
  exact congrArg Value.object (Entries.insertAll_of_distinct hd)

mutual
theorem ofValue?_toValue (t : ErrorTree) (h : t.Nodes Plain) : ofValue? t.toValue = some t := by
  cases t with
  | node errors children =>
    -- No child has the reserved name, so the reader skips just the entry of the messages.
    have hc := childrenOf?_childValues children fun e he =>
      ⟨fun hk => h.self.2 (hk ▸ List.mem_map_of_mem he),
        h.child (Entries.Distinct.lookup_of_mem h.self.1 he)⟩
    rw [toValue_of_plain h.self, ofValue?, List.lookup_cons_self, Option.bind_some,
      Value.strings?_strings, childrenOf?, hc]
    rfl

theorem childrenOf?_childValues (children : List (String × ErrorTree))
    (h : ∀ e ∈ children, e.1 ≠ ownKey ∧ e.2.Nodes Plain) :
    childrenOf? (childValues children) = some children := by
  cases children with
  | nil => rfl
  | cons e rest =>
    obtain ⟨key, child⟩ := e
    obtain ⟨hkey, hchild⟩ := h _ List.mem_cons_self
    rw [childValues, childrenOf?, ofValue?_toValue child hchild,
      childrenOf?_childValues rest fun e he => h e (List.mem_cons_of_mem _ he)]
    simp [hkey]
end

/-! ## Messages that are written over -/

/-- The tree with other messages at the node that some keys lead to. -/
def withErrors (messages : List String) : List String → ErrorTree → ErrorTree
  | [], .node _ children => .node messages children
  | key :: keys, .node errors children =>
    .node errors (Entries.alter key (fun c => withErrors messages keys (c.getD empty)) children)

section WithErrors
variable (t) (messages : List String) (key : String) (keys : List String)

@[simp] theorem errors_withErrors_cons :
    (t.withErrors messages (key :: keys)).errors = t.errors := by
  cases t; rfl

theorem children_withErrors_cons : (t.withErrors messages (key :: keys)).children =
    t.children.alter key fun c => withErrors messages keys (c.getD empty) := by
  cases t; rfl

end WithErrors

theorem nodup_keys_withErrors (h : t.Distinct) (messages : List String) :
    (t.withErrors messages (key :: keys)).keys.Nodup := by
  rw [ErrorTree.keys, children_withErrors_cons]
  exact Entries.Distinct.alter h key _

theorem get?_withErrors_cons (hc : t.get? key = some c) (messages : List String) :
    (t.withErrors messages (key :: keys)).get? key = some (c.withErrors messages keys) := by
  have hg : t.children.get? key = some c := hc
  rw [get?, children_withErrors_cons, Entries.get?_alter, if_pos rfl, hg]
  rfl

theorem walk?_withErrors (hn : t.walk? keys = some n) (messages : List String) :
    (t.withErrors messages keys).walk? keys = some (.node messages n.children) := by
  induction keys generalizing t with
  | nil =>
    obtain rfl : t = n := Option.some.inj hn
    cases t; rfl
  | cons key keys ih =>
    obtain ⟨c, hc, hn⟩ := Option.bind_eq_some_iff.mp hn
    rw [walk?, get?_withErrors_cons hc messages]
    exact ih hn

theorem toValue_withErrors_nil_iff (h : t.keys.Nodup) {messages : List String} :
    (t.withErrors messages []).toValue = t.toValue ↔ ownKey ∈ t.keys ∨ messages = t.errors := by
  have hs : Value.strings messages = Value.strings t.errors ↔ messages = t.errors :=
    ⟨Value.strings_inj, congrArg Value.strings⟩
  have hi := Entries.insertAll_singleton_inj_iff (distinct_childValues h) ownKey
    (Value.strings messages) (Value.strings t.errors)
  rw [hs, childValues_eq, Entries.names_mapValues] at hi
  cases t with
  | node errors children =>
    rw [withErrors, toValue, toValue, Value.object.injEq, childValues_eq]
    exact hi

/-- The value of a tree does not show the messages of a node when a child takes their name. -/
theorem toValue_withErrors_iff (h : t.Nodes Distinct) (hn : t.walk? keys = some n)
    {messages : List String} : (t.withErrors messages keys).toValue = t.toValue ↔
      ownKey ∈ n.keys ∨ messages = n.errors := by
  induction keys generalizing t with
  | nil =>
    obtain rfl : t = n := Option.some.inj hn
    exact toValue_withErrors_nil_iff h.self
  | cons key keys ih =>
    obtain ⟨c, hc, hn⟩ := Option.bind_eq_some_iff.mp hn
    rw [← ih (h.child hc) hn]
    -- Values on the way differ just in the entry of the key, and no child is written over there.
    constructor
    · intro heq
      have hd : (t.withErrors messages (key :: keys)).keys.Nodup :=
        nodup_keys_withErrors h.self messages
      have hv := congrArg (fun v => v.field? key) heq
      rw [field?_child h.self hc, field?_child hd (get?_withErrors_cons hc messages)] at hv
      exact Option.some.inj hv
    · intro heq
      rw [toValue_eq, toValue_eq, childValues_eq, childValues_eq, children_withErrors_cons,
        errors_withErrors_cons, Entries.mapValues_alter_of_eq h.self hc heq]

/-! ## Trees of issues -/

theorem nodes_distinct_ofIssues (issues : List Issue) : (ofIssues issues).Nodes Distinct :=
  fun _ _ hn => (indexes_of_walk? hn).nodup

theorem exists_segment_of_mem_keys {issues : List Issue}
    (hn : (ofIssues issues).walk? keys = some n) (hk : key ∈ n.keys) :
    ∃ i ∈ issues, ∃ s ∈ i.path, s.rendered = key := by
  rw [(indexes_of_walk? hn).keys, List.mem_eraseDups, List.mem_filterMap] at hk
  obtain ⟨i, hi, hk⟩ := hk
  obtain ⟨rest, hr, hk⟩ := Option.bind_eq_some_iff.mp hk
  obtain ⟨before, hp, _⟩ := List.dropPrefix?_eq_some_iff.mp hr
  have hm : key ∈ i.path.rendered := by
    rw [hp]
    exact List.mem_append_right before (List.mem_of_mem_head? hk)
  exact ⟨i, hi, List.mem_map.mp hm⟩

theorem eq_key_of_rendered_eq_ownKey {s : Segment} (h : s.rendered = ownKey) :
    s = .key ownKey := by
  cases s with
  | key name => exact congrArg Segment.key h
  | index i =>
    have hm : '_' ∈ (Segment.index i).rendered.toList := by
      rw [h]
      decide
    exact absurd (Segment.isDigit_of_mem_rendered hm) (by decide)

theorem nodes_plain_ofIssues {issues : List Issue} (h : ∀ i ∈ issues, .key ownKey ∉ i.path) :
    (ofIssues issues).Nodes Plain := by
  refine fun keys n hn => ⟨nodes_distinct_ofIssues issues keys n hn, fun hk => ?_⟩
  obtain ⟨i, hi, s, hs, hr⟩ := exists_segment_of_mem_keys hn hk
  exact h i hi (eq_key_of_rendered_eq_ownKey hr ▸ hs)

/-- What is written of the node that some keys lead to. With other messages at the node the tree
would be written alike just where a child has their name. -/
structure WrittenAt (t : ErrorTree) (way : List String) (n : ErrorTree) : Prop where
  found : t.toValue.walk? way = some n.toValue
  names : ∃ entries, n.toValue = .object entries ∧
    Entries.names entries = ownKey :: n.keys.filter fun key => key ≠ ownKey
  child : ∀ key c, n.get? key = some c → n.toValue.field? key = some c.toValue
  own : ownKey ∉ n.keys → n.toValue.field? ownKey = some (.strings n.errors)
  other : ∀ messages,
    (t.withErrors messages way).walk? way = some (.node messages n.children)
  lost : ∀ messages, (t.withErrors messages way).toValue = t.toValue ↔
    ownKey ∈ n.keys ∨ messages = n.errors

theorem writtenAt_of_walk? (h : t.Nodes Distinct) (hn : t.walk? keys = some n) :
    t.WrittenAt keys n := by
  have hd : n.keys.Nodup := h keys n hn
  exact ⟨walk?_toValue h hn, exists_entries_toValue hd, fun _ _ => field?_child hd, field?_own hd,
    walk?_withErrors hn, fun _ => toValue_withErrors_iff h hn⟩

end ErrorTree

/-- The tree of issues is read back from its value if no path has the reserved name as a key, so
such trees with one value are one tree. Whatever the names, all nodes are found in the value under
their keys, and all that is lost are the messages of the nodes with a child of the reserved name. -/
theorem tree_read_back (issues : List Issue) :
    ((∀ i ∈ issues, .key ErrorTree.ownKey ∉ i.path) →
      ErrorTree.ofValue? (ErrorTree.ofIssues issues).toValue = some (ErrorTree.ofIssues issues) ∧
      ∀ others : List Issue, (∀ i ∈ others, .key ErrorTree.ownKey ∉ i.path) →
        (ErrorTree.ofIssues issues).toValue = (ErrorTree.ofIssues others).toValue →
        ErrorTree.ofIssues issues = ErrorTree.ofIssues others) ∧
    ∀ way n, (ErrorTree.ofIssues issues).walk? way = some n →
      (ErrorTree.ofIssues issues).WrittenAt way n := by
  refine ⟨fun h => ?_, fun way n =>
    ErrorTree.writtenAt_of_walk? (ErrorTree.nodes_distinct_ofIssues issues)⟩
  have hback := ErrorTree.ofValue?_toValue _ (ErrorTree.nodes_plain_ofIssues h)
  refine ⟨hback, fun others ho heq => ?_⟩
  have hother := ErrorTree.ofValue?_toValue _ (ErrorTree.nodes_plain_ofIssues ho)
  rw [← heq, hback] at hother
  exact Option.some.inj hother

/-- Issues at the root, at the reserved name and below it. -/
def overwritingIssues : List Issue :=
  [.custom [] "bad", .custom [.key "_errors"] "odd", .custom [.key "_errors", .index 0] "even"]

/-- The root loses its message to the child, which keeps its own. -/
theorem tree_read_back_overwritingIssues :
    ErrorTree.ofValue? (ErrorTree.ofIssues collidingIssues).toValue =
      some (ErrorTree.ofIssues collidingIssues) ∧
    ∃ n, (ErrorTree.ofIssues overwritingIssues).walk? ["_errors"] = some n ∧
      (ErrorTree.ofIssues overwritingIssues).toValue.walk? ["_errors"] = some n.toValue ∧
      n.toValue.field? "_errors" = some (.strings ["odd"]) ∧
      ((ErrorTree.ofIssues overwritingIssues).withErrors [] []).toValue =
        (ErrorTree.ofIssues overwritingIssues).toValue := by
  refine ⟨((tree_read_back collidingIssues).1 (by decide)).1, ?_⟩
  obtain ⟨_, written⟩ := tree_read_back overwritingIssues
  have hbelow := written ["_errors"] _ rfl
  refine ⟨_, rfl, hbelow.found, hbelow.own (by decide), ?_⟩
  exact ((written [] _ rfl).lost []).mpr (.inl (by decide))

end Schemata
