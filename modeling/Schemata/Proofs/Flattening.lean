import Mathlib.Algebra.GroupWithZero.Nat
import Schemata.Proofs.ErrorIndex

/-! # The flat form agrees with the tree

The flat form groups messages by the first segment of their paths, the tree by all segments. Both
make a group when an issue first touches it, so their keys are the same in the same order, and what
stands under a key in one is spread below it in the other.
-/
namespace Schemata

/-- The first segment of an issue's path, rendered. -/
def Issue.firstKey? (i : Issue) : Option String := i.path.head?.map Segment.rendered

/-- The messages of the issues whose paths begin with a key. -/
def messagesThrough (key : String) (issues : List Issue) : List String :=
  (issues.filter fun i => i.firstKey? = some key).map Issue.message

@[simp] theorem messagesThrough_append (key : String) (issues others : List Issue) :
    messagesThrough key (issues ++ others) =
      messagesThrough key issues ++ messagesThrough key others := by
  simp [messagesThrough]

namespace FlatErrors

theorem ofIssues_concat (issues : List Issue) (i : Issue) :
    ofIssues (issues ++ [i]) = (ofIssues issues).add i := List.foldl_concat _ _ _ _

/-! ## One issue more -/

section Add
variable (f : FlatErrors) {i : Issue}

theorem add_of_root (h : i.path = []) : f.add i = { f with form := f.form ++ [i.message] } := by
  simp only [add, h]

theorem add_of_key {key : String} (h : i.firstKey? = some key) :
    f.add i = { f with fields := f.fields.alter key fun ms => ms.getD [] ++ [i.message] } := by
  cases hp : i.path with
  | nil => simp [Issue.firstKey?, hp] at h
  | cons s path =>
    obtain rfl : s.rendered = key := by simpa [Issue.firstKey?, hp] using h
    simp only [add, hp]

theorem root_or_key (i : Issue) : i.path = [] ∨ ∃ key, i.firstKey? = some key := by
  cases hp : i.path with
  | nil => exact .inl rfl
  | cons s path => exact .inr ⟨s.rendered, by simp [Issue.firstKey?, hp]⟩

theorem firstKey?_of_root (h : i.path = []) : i.firstKey? = none := by
  simp [Issue.firstKey?, h]

theorem path_ne_nil_of_key {key : String} (h : i.firstKey? = some key) : i.path ≠ [] := by
  intro hp
  rw [firstKey?_of_root hp] at h
  cases h

end Add

/-! ## All issues -/

theorem form_ofIssues (issues : List Issue) :
    (ofIssues issues).form = (issues.filter fun i => i.path = []).map Issue.message := by
  induction issues using List.reverseRecOn with
  | nil => rfl
  | append_singleton issues i ih =>
    rw [ofIssues_concat]
    rcases root_or_key i with h | ⟨key, h⟩
    · simp [add_of_root _ h, ih, h]
    · have hp := path_ne_nil_of_key h
      simp [add_of_key _ h, ih, hp]

theorem names_ofIssues (issues : List Issue) :
    (ofIssues issues).fields.names = (issues.filterMap Issue.firstKey?).eraseDups := by
  induction issues using List.reverseRecOn with
  | nil => rfl
  | append_singleton issues i ih =>
    rw [ofIssues_concat, List.filterMap_append]
    rcases root_or_key i with h | ⟨key, h⟩
    · have hn := firstKey?_of_root h
      simp [add_of_root _ h, ih, hn]
    · have hc : [i].filterMap Issue.firstKey? = [key] := by simp [h]
      rw [add_of_key _ h, hc, eraseDups_concat, Entries.names_alter]
      simp only [ih, List.mem_eraseDups]

theorem get?_ofIssues (issues : List Issue) (key : String) :
    (ofIssues issues).fields.get? key =
      if messagesThrough key issues = [] then none else some (messagesThrough key issues) := by
  induction issues using List.reverseRecOn with
  | nil => rfl
  | append_singleton issues i ih =>
    rw [ofIssues_concat, messagesThrough_append]
    rcases root_or_key i with h | ⟨k, h⟩
    · have hn := firstKey?_of_root h
      simpa [add_of_root _ h, messagesThrough, hn] using ih
    · rw [add_of_key _ h, Entries.get?_alter]
      by_cases hk : key = k
      · subst hk
        have hm : messagesThrough key [i] = [i.message] := by simp [messagesThrough, h]
        have hg : ((ofIssues issues).fields.get? key).getD [] = messagesThrough key issues := by
          rw [ih]
          split
          · next he => exact he.symm
          · rfl
        simp [hm, hg]
      · have hm : messagesThrough key [i] = [] := by
          simp [messagesThrough, h, Ne.symm hk]
        simpa [hk, hm] using ih

theorem sum_lengths_alter (key message : String) (fields : Entries (List String)) :
    ((fields.alter key fun ms => ms.getD [] ++ [message]).map fun f => f.2.length).sum =
      (fields.map fun f => f.2.length).sum + 1 := by
  induction fields with
  | nil => rfl
  | cons f fields ih =>
    obtain ⟨name, ms⟩ := f
    by_cases h : name = key
    · simp only [Entries.alter, if_pos h, Option.getD_some, List.map_cons, List.sum_cons,
        List.length_append, List.length_singleton]
      omega
    · simp only [Entries.alter, if_neg h, List.map_cons, List.sum_cons, ih]
      omega

theorem length_ofIssues (issues : List Issue) :
    (ofIssues issues).form.length + ((ofIssues issues).fields.map fun f => f.2.length).sum =
      issues.length := by
  induction issues using List.reverseRecOn with
  | nil => rfl
  | append_singleton issues i ih =>
    rw [ofIssues_concat, List.length_append, List.length_singleton]
    rcases root_or_key i with h | ⟨key, h⟩
    · simp only [add_of_root _ h, List.length_append, List.length_singleton]
      omega
    · simp only [add_of_key _ h, sum_lengths_alter]
      omega

end FlatErrors

/-! ## Both forms -/

theorem Posting.messages_under_key (key : String) (issues : List Issue) :
    (under [key] (issues.map Issue.posting)).map Prod.snd = messagesThrough key issues := by
  have hp (i : Issue) : [key] <+: i.path.rendered ↔ i.firstKey? = some key := by
    cases h : i.path with
    | nil => simp [Path.rendered, Issue.firstKey?, h]
    | cons s path => simp [Path.rendered, Issue.firstKey?, h, eq_comm]
  simp only [messages_under, messagesThrough, hp]

theorem ErrorTree.keys_eq_firstKeys (issues : List Issue) :
    (ofIssues issues).keys = (issues.filterMap Issue.firstKey?).eraseDups := by
  have h : (ofIssues issues).Indexes issues [] := indexes_of_walk? rfl
  rw [h.keys]
  refine congrArg List.eraseDups (List.filterMap_congr fun i _ => ?_)
  simp [nextKey?, Issue.firstKey?, Path.rendered]

/-- The form messages of the flat form are those of the root of the tree, and the fields are its
keys, in one order. The messages of a field are those of the issues whose paths begin with it, in
their order, and they are the messages anywhere below that key of the tree. No message is lost and
none is counted twice. -/
theorem flat_agrees_with_tree (issues : List Issue) :
    (FlatErrors.ofIssues issues).form = (ErrorTree.ofIssues issues).errors ∧
    (FlatErrors.ofIssues issues).fields.names = (ErrorTree.ofIssues issues).keys ∧
    (∀ key ∈ (ErrorTree.ofIssues issues).keys, ∃ messages below,
      (FlatErrors.ofIssues issues).fields.get? key = some messages ∧
      (ErrorTree.ofIssues issues).get? key = some below ∧
      messages ≠ [] ∧
      messages = (issues.filter fun i => i.path.head?.map Segment.rendered = some key).map
        Issue.message ∧
      messages.Perm below.messages) ∧
    (FlatErrors.ofIssues issues).form.length +
      ((FlatErrors.ofIssues issues).fields.map fun f => f.2.length).sum = issues.length := by
  have hroot : (ErrorTree.ofIssues issues).Indexes issues [] := ErrorTree.indexes_of_walk? rfl
  refine ⟨?_, ?_, ?_, FlatErrors.length_ofIssues issues⟩
  · rw [FlatErrors.form_ofIssues, hroot.errors]
    simp [Path.rendered]
  · rw [FlatErrors.names_ofIssues, ErrorTree.keys_eq_firstKeys]
  · intro key hkey
    rw [ErrorTree.keys_eq_firstKeys, List.mem_eraseDups, List.mem_filterMap] at hkey
    obtain ⟨i, hi, hk⟩ := hkey
    have hne : messagesThrough key issues ≠ [] := by
      have hm : i.message ∈ messagesThrough key issues :=
        List.mem_map_of_mem (List.mem_filter.mpr ⟨hi, decide_eq_true hk⟩)
      exact List.ne_nil_of_mem hm
    have hu := Posting.messages_under_key key issues
    have hune : Posting.under [key] (issues.map Issue.posting) ≠ [] := by
      intro h
      rw [h] at hu
      exact hne hu.symm
    refine ⟨_, ErrorTree.ofPostings (Posting.under [key] (issues.map Issue.posting)), ?_, ?_, hne,
      rfl, ?_⟩
    · rw [FlatErrors.get?_ofIssues, if_neg hne]
    · rw [ErrorTree.ofIssues_eq, ErrorTree.get?_ofPostings, if_neg hune]
    · -- In another order: the tree puts the messages at a key before all that are below it.
      rw [← hu]
      exact (ErrorTree.messages_ofPostings _).symm

theorem flat_agrees_with_tree_collidingIssues :
    (ErrorTree.ofIssues collidingIssues).keys = ["3"] ∧
      (FlatErrors.ofIssues collidingIssues).form = ["bad"] ∧
      ∃ below, (ErrorTree.ofIssues collidingIssues).get? "3" = some below ∧
        ["too short", "odd", "missing", "even"].Perm below.messages := by
  obtain ⟨hform, _, hfields, _⟩ := flat_agrees_with_tree collidingIssues
  have hk : (ErrorTree.ofIssues collidingIssues).keys = ["3"] := by decide
  have hmem : "3" ∈ (ErrorTree.ofIssues collidingIssues).keys := by simp [hk]
  obtain ⟨messages, below, _, hb, _, hm, hp⟩ := hfields "3" hmem
  refine ⟨hk, hform.trans (by decide), below, hb, ?_⟩
  rw [hm] at hp
  exact hp

end Schemata
