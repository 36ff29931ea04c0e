import Mathlib.Data.List.Induction
import Mathlib.Data.List.Basic
import Schemata.ErrorTree

/-! # The tree of errors as an index

A posting is a message with the keys that still lead to it. The node that some keys lead to is
itself the tree of the postings under these keys, with the keys taken off. So what a node holds is
read off the list of issues, whatever other paths cross the way to it.
-/
namespace Schemata

/-- A message with the keys that still lead to it. -/
abbrev Posting := List String × String

def Issue.posting (i : Issue) : Posting := (i.path.rendered, i.message)

/-- The postings under some keys, with these keys taken off. -/
def Posting.under (keys : List String) (ps : List Posting) : List Posting :=
  ps.filterMap fun p => (p.1.dropPrefix? keys).map fun rest => (rest, p.2)

namespace Posting

@[simp] theorem under_nil (ps : List Posting) : under [] ps = ps := by
  have hd (p : Posting) : p.1.dropPrefix? [] = some p.1 := by simp
  simp [under, hd]

@[simp] theorem under_of_nil (keys : List String) : under keys [] = [] := rfl

theorem under_append (keys : List String) (ps qs : List Posting) :
    under keys (ps ++ qs) = under keys ps ++ under keys qs := List.filterMap_append

theorem dropPrefix?_cons (key : String) (keys path : List String) :
    path.dropPrefix? (key :: keys) =
      (path.dropPrefix? [key]).bind fun rest => rest.dropPrefix? keys := by
  cases path with
  | nil => rfl
  | cons k path =>
    simp only [List.dropPrefix?]
    split <;> rfl

theorem under_cons (key : String) (keys : List String) (ps : List Posting) :
    under (key :: keys) ps = under keys (under [key] ps) := by
  simp only [under, List.filterMap_filterMap]
  refine List.filterMap_congr fun p _ => ?_
  rw [dropPrefix?_cons]
  cases p.1.dropPrefix? [key] <;> rfl

@[simp] theorem under_key_root (key message : String) : under [key] [([], message)] = [] := rfl

theorem under_key_singleton (key k : String) (keys : List String) (message : String) :
    under [key] [(k :: keys, message)] = if key = k then [(keys, message)] else [] := by
  by_cases h : key = k
  · simp [under, List.dropPrefix?, h]
  · have hb : (k == key) = false := beq_eq_false_iff_ne.mpr fun hk => h hk.symm
    simp [under, List.dropPrefix?, h, hb]

theorem dropPrefix?_eq_none_iff {keys path : List String} :
    path.dropPrefix? keys = none ↔ ¬ keys <+: path := by
  have hs : (∃ rest, path.dropPrefix? keys = some rest) ↔ keys <+: path := by
    simp only [List.dropPrefix?_eq_some_iff, beq_iff_eq, exists_eq_right]
    exact ⟨fun ⟨rest, h⟩ => ⟨rest, h.symm⟩, fun ⟨rest, h⟩ => ⟨rest, h.symm⟩⟩
  rw [← hs, ← Option.ne_none_iff_exists', not_not]

theorem under_ne_nil_iff {keys : List String} {ps : List Posting} :
    under keys ps ≠ [] ↔ ∃ p ∈ ps, keys <+: p.1 := by
  simp only [under, ne_eq, List.filterMap_eq_nil_iff, Option.map_eq_none_iff, not_forall,
    exists_prop, dropPrefix?_eq_none_iff, not_not]

end Posting

theorem map_filter_eq_filterMap {α β : Type} (keep : α → Bool) (f : α → β) (l : List α) :
    (l.filter keep).map f = l.filterMap fun a => if keep a then some (f a) else none := by
  rw [← List.filterMap_eq_filter, List.map_filterMap]
  apply List.filterMap_congr
  intro a _
  by_cases h : keep a <;> simp [Option.guard, h]

theorem eraseDups_concat (names : List String) (name : String) :
    (names ++ [name]).eraseDups =
      if name ∈ names then names.eraseDups else names.eraseDups ++ [name] := by
  rw [List.eraseDups_append]
  by_cases h : name ∈ names
  · simp [List.removeAll, h]
  · simp [List.removeAll, h, List.eraseDups_cons]

namespace ErrorTree

def ofPostings (ps : List Posting) : ErrorTree := ps.foldl (fun t p => t.add p.2 p.1) empty

theorem ofIssues_eq (issues : List Issue) :
    ofIssues issues = ofPostings (issues.map Issue.posting) := by
  rw [ofPostings, List.foldl_map]
  rfl

theorem ofPostings_concat (ps : List Posting) (p : Posting) :
    ofPostings (ps ++ [p]) = (ofPostings ps).add p.2 p.1 := List.foldl_concat _ _ _ _

/-! ## One message more -/

section Add
variable (t : ErrorTree) (message : String)

@[simp] theorem errors_add_nil : (t.add message []).errors = t.errors ++ [message] := by
  cases t; rfl

@[simp] theorem keys_add_nil : (t.add message []).keys = t.keys := by
  cases t; rfl

@[simp] theorem get?_add_nil (name : String) : (t.add message []).get? name = t.get? name := by
  cases t; rfl

variable (key : String) (keys : List String)

@[simp] theorem errors_add_cons : (t.add message (key :: keys)).errors = t.errors := by
  cases t; rfl

theorem children_add_cons :
    (t.add message (key :: keys)).children =
      t.children.alter key fun child => add message keys (child.getD empty) := by
  cases t; rfl

theorem keys_add_cons :
    (t.add message (key :: keys)).keys = if key ∈ t.keys then t.keys else t.keys ++ [key] := by
  rw [ErrorTree.keys, children_add_cons, Entries.names_alter]
  rfl

theorem get?_add_cons (name : String) :
    (t.add message (key :: keys)).get? name =
      if name = key then some (add message keys ((t.get? key).getD empty)) else t.get? name := by
  rw [get?, children_add_cons, Entries.get?_alter]
  rfl

end Add

/-! ## The node at some keys -/

theorem errors_ofPostings (ps : List Posting) :
    (ofPostings ps).errors = (ps.filter fun p => p.1.isEmpty).map Prod.snd := by
  induction ps using List.reverseRecOn with
  | nil => rfl
  | append_singleton ps p ih =>
    obtain ⟨path, message⟩ := p
    rw [ofPostings_concat]
    cases path with
    | nil => simp [ih]
    | cons key path => simp [ih]

theorem keys_ofPostings (ps : List Posting) :
    (ofPostings ps).keys = (ps.filterMap fun p => p.1.head?).eraseDups := by
  induction ps using List.reverseRecOn with
  | nil => rfl
  | append_singleton ps p ih =>
    obtain ⟨path, message⟩ := p
    rw [ofPostings_concat, List.filterMap_append]
    cases path with
    | nil => rw [keys_add_nil, ih]; exact congrArg List.eraseDups (List.append_nil _).symm
    | cons key path =>
      have hc : [(key :: path, message)].filterMap (fun p : Posting => p.1.head?) = [key] := rfl
      rw [keys_add_cons, hc, eraseDups_concat]
      simp only [ih, List.mem_eraseDups]

theorem nodup_keys_ofPostings (ps : List Posting) : (ofPostings ps).keys.Nodup := by
  induction ps using List.reverseRecOn with
  | nil => exact List.nodup_nil
  | append_singleton ps p ih =>
    obtain ⟨path, message⟩ := p
    rw [ofPostings_concat]
    cases path with
    | nil => simpa using ih
    | cons key path =>
      rw [keys, children_add_cons]
      exact Entries.Distinct.alter ih key _

theorem get?_ofPostings (ps : List Posting) (key : String) :
    (ofPostings ps).get? key =
      if Posting.under [key] ps = [] then none else some (ofPostings (Posting.under [key] ps)) := by
  induction ps using List.reverseRecOn with
  | nil => rfl
  | append_singleton ps p ih =>
    obtain ⟨path, message⟩ := p
    rw [ofPostings_concat, Posting.under_append]
    cases path with
    | nil => simpa using ih
    | cons k path =>
      rw [get?_add_cons, Posting.under_key_singleton]
      by_cases hk : key = k
      · subst hk
        have hc : ((ofPostings ps).get? key).getD empty = ofPostings (Posting.under [key] ps) := by
          rw [ih]
          split
          · next h => rw [h]; rfl
          · rfl
        simp [hc, ofPostings_concat]
      · simpa [hk] using ih

theorem walk?_ofPostings (ps : List Posting) (keys : List String) :
    (ofPostings ps).walk? keys =
      if keys = [] ∨ Posting.under keys ps ≠ [] then some (ofPostings (Posting.under keys ps))
      else none := by
  -- The child at a key is a tree of postings again, of those under the key.
  induction keys generalizing ps with
  | nil => simp [walk?]
  | cons key keys ih =>
    rw [walk?, get?_ofPostings, Posting.under_cons key keys ps]
    by_cases h : Posting.under [key] ps = []
    · simp [h]
    · rw [if_neg h, Option.bind_some, ih]
      by_cases hk : keys = []
      · simp [hk, h]
      · simp [hk]

/-! ## The messages of the whole tree -/

mutual
def messages : ErrorTree → List String
  | .node errors children => errors ++ childMessages children

def childMessages : List (String × ErrorTree) → List String
  | [] => []
  | (_, child) :: rest => child.messages ++ childMessages rest
end

mutual
theorem isEmpty_iff (t : ErrorTree) : t.isEmpty = true ↔ t.messages = [] := by
  cases t with
  | node errors children =>
    rw [isEmpty, messages, Bool.and_eq_true, List.isEmpty_iff, List.append_eq_nil_iff,
      allEmpty_iff children]

theorem allEmpty_iff (children : List (String × ErrorTree)) :
    allEmpty children = true ↔ childMessages children = [] := by
  cases children with
  | nil => simp [allEmpty, childMessages]
  | cons e rest =>
    obtain ⟨name, child⟩ := e
    rw [allEmpty, childMessages, Bool.and_eq_true, List.append_eq_nil_iff, isEmpty_iff child,
      allEmpty_iff rest]
end

theorem childMessages_alter {message : String} {f : Option ErrorTree → ErrorTree}
    (hf : ∀ child, (f child).messages.Perm (message :: (child.getD empty).messages))
    (key : String) (children : List (String × ErrorTree)) :
    (childMessages (Entries.alter key f children)).Perm (message :: childMessages children) := by
  induction children with
  | nil => simpa [Entries.alter, childMessages, empty, messages] using hf none
  | cons e rest ih =>
    obtain ⟨name, child⟩ := e
    by_cases h : name = key
    · simp only [Entries.alter, if_pos h, childMessages]
      exact (hf (some child)).append_right _
    · simp only [Entries.alter, if_neg h, childMessages]
      exact (ih.append_left _).trans List.perm_middle

theorem messages_add (t : ErrorTree) (message : String) (path : List String) :
    (t.add message path).messages.Perm (message :: t.messages) := by
  induction path generalizing t with
  | nil =>
    obtain ⟨errors, children⟩ := t
    simp only [add, messages, List.append_assoc, List.singleton_append]
    exact List.perm_middle
  | cons key path ih =>
    obtain ⟨errors, children⟩ := t
    have hc := childMessages_alter (fun child => ih (child.getD empty)) key children
    simp only [add, messages]
    exact (hc.append_left errors).trans List.perm_middle

theorem messages_ofPostings (ps : List Posting) :
    (ofPostings ps).messages.Perm (ps.map Prod.snd) := by
  induction ps using List.reverseRecOn with
  | nil => exact .nil
  | append_singleton ps p ih =>
    rw [ofPostings_concat, List.map_append]
    have ha := messages_add (ofPostings ps) p.2 p.1
    have hp : (p.2 :: ps.map Prod.snd).Perm (ps.map Prod.snd ++ [p.2]) :=
      (List.perm_append_singleton _ _).symm
    exact ha.trans ((ih.cons p.2).trans hp)

theorem isEmpty_ofPostings_iff (ps : List Posting) : (ofPostings ps).isEmpty = true ↔ ps = [] := by
  have hl := (messages_ofPostings ps).length_eq
  rw [List.length_map] at hl
  rw [isEmpty_iff, ← List.length_eq_zero_iff, hl, List.length_eq_zero_iff]

end ErrorTree

/-! ## Issues -/

/-- The key that comes after some keys, on a path that goes on from there. -/
def nextKey? (keys path : List String) : Option String := (path.dropPrefix? keys).bind List.head?

namespace Posting
variable (keys : List String) (issues : List Issue)

theorem messages_at_keys :
    ((under keys (issues.map Issue.posting)).filter fun p => p.1.isEmpty).map Prod.snd =
      (issues.filter fun i => i.path.rendered = keys).map Issue.message := by
  have he (i : Issue) : i.path.rendered.dropPrefix? keys = some [] ↔ i.path.rendered = keys := by
    simp [List.dropPrefix?_eq_some_iff]
  rw [under, List.filterMap_map, List.filter_filterMap, List.map_filterMap,
    map_filter_eq_filterMap]
  apply List.filterMap_congr
  intro i _
  simp only [Function.comp_apply, Issue.posting, decide_eq_true_eq, ← he]
  cases i.path.rendered.dropPrefix? keys with
  | none => rfl
  | some rest => cases rest <;> simp

theorem messages_under :
    (under keys (issues.map Issue.posting)).map Prod.snd =
      (issues.filter fun i => keys <+: i.path.rendered).map Issue.message := by
  rw [under, List.filterMap_map, List.map_filterMap, map_filter_eq_filterMap]
  apply List.filterMap_congr
  intro i _
  simp only [Function.comp_apply, Issue.posting, decide_eq_true_eq]
  by_cases h : keys <+: i.path.rendered
  · obtain ⟨rest, hr⟩ := Option.ne_none_iff_exists'.mp fun hn => dropPrefix?_eq_none_iff.mp hn h
    simp [hr, h]
  · simp [dropPrefix?_eq_none_iff.mpr h, h]

theorem keys_after :
    (under keys (issues.map Issue.posting)).filterMap (fun p => p.1.head?) =
      issues.filterMap fun i => nextKey? keys i.path.rendered := by
  rw [under, List.filterMap_map, List.filterMap_filterMap]
  refine List.filterMap_congr fun i _ => ?_
  simp only [Function.comp_apply, Issue.posting, nextKey?]
  cases i.path.rendered.dropPrefix? keys <;> rfl

end Posting

/-- What a node says of the issues, when a way of keys leads to it. -/
structure ErrorTree.Indexes (issues : List Issue) (way : List String) (node : ErrorTree) :
    Prop where
  errors : node.errors = (issues.filter fun i => i.path.rendered = way).map Issue.message
  keys : node.keys = (issues.filterMap fun i => nextKey? way i.path.rendered).eraseDups
  nodup : node.keys.Nodup
  isEmpty : node.isEmpty = true ↔ way = [] ∧ issues = []

theorem ErrorTree.indexes_of_walk? {issues : List Issue} {keys : List String} {node : ErrorTree}
    (h : (ErrorTree.ofIssues issues).walk? keys = some node) : node.Indexes issues keys := by
  rw [ofIssues_eq, walk?_ofPostings] at h
  split at h
  · next hr =>
    cases h
    refine ⟨?_, ?_, nodup_keys_ofPostings _, ?_⟩
    · rw [errors_ofPostings, Posting.messages_at_keys]
    · rw [keys_ofPostings, Posting.keys_after]
    · rw [isEmpty_ofPostings_iff]
      constructor
      · intro hu
        have hk : keys = [] := hr.resolve_right fun hne => hne hu
        subst hk
        rw [Posting.under_nil, List.map_eq_nil_iff] at hu
        exact ⟨rfl, hu⟩
      · rintro ⟨rfl, rfl⟩
        exact Posting.under_nil _
  · cases h

/-- Keys lead to a node when they begin the rendered path of some issue, or are none. The node has
the messages of just the issues at these keys, in their order, and a child for each key that comes
next on the way to an issue, in the order of first occurrence. No node but the root of no issues
is empty, and the messages of the whole tree are those of all issues. -/
theorem issues_indexed (issues : List Issue) :
    (∀ keys, (∃ node, (ErrorTree.ofIssues issues).walk? keys = some node) ↔
      keys = [] ∨ ∃ i ∈ issues, keys <+: i.path.rendered) ∧
    (∀ keys node, (ErrorTree.ofIssues issues).walk? keys = some node →
      node.Indexes issues keys) ∧
    (ErrorTree.ofIssues issues).messages.Perm (issues.map Issue.message) := by
  refine ⟨?_, fun keys node => ErrorTree.indexes_of_walk?, ?_⟩
  · intro keys
    have hu : Posting.under keys (issues.map Issue.posting) ≠ [] ↔
        ∃ i ∈ issues, keys <+: i.path.rendered := by
      simp [Posting.under_ne_nil_iff, Issue.posting]
    rw [ErrorTree.ofIssues_eq, ErrorTree.walk?_ofPostings, ← hu]
    split
    · next h => exact iff_of_true ⟨_, rfl⟩ h
    · next h => exact iff_of_false (fun ⟨_, hn⟩ => by cases hn) h
  · have hm := ErrorTree.messages_ofPostings (issues.map Issue.posting)
    rw [List.map_map] at hm
    rw [ErrorTree.ofIssues_eq]
    exact hm

/-- Issues at an index, below the key of its digits, and at the root. -/
def collidingIssues : List Issue :=
  [.custom [.index 3, .key "name"] "too short", .custom [] "bad", .custom [.key "3"] "odd",
    .custom [.index 3, .index 0] "missing", .custom [.index 3] "even"]

theorem issues_indexed_collidingIssues :
    ∃ node, (ErrorTree.ofIssues collidingIssues).walk? ["3"] = some node ∧
      node.errors = ["odd", "even"] ∧ node.keys = ["name", "0"] ∧ node.isEmpty = false := by
  obtain ⟨hw, hi, _⟩ := issues_indexed collidingIssues
  obtain ⟨node, hn⟩ := (hw ["3"]).mpr (.inr ⟨.custom [.key "3"] "odd", by decide, by decide⟩)
  have h := hi _ _ hn
  refine ⟨node, hn, h.errors, h.keys, ?_⟩
  rw [← Bool.not_eq_true, h.isEmpty]
  simp

end Schemata
