import Schemata.Proofs.ErrorIndex
import Schemata.Proofs.Location

/-! # Where issues land in the tree of errors

Rendering forgets whether a segment is a key or an index, so different paths may be rendered alike.
Paths that can be followed from one value are not: where they would part there lies one value, and
it takes only keys or only indices. All issues of a validation are about places inside its input, so
two of them land in one node of the tree only when they are about one place.
-/
namespace Schemata

/-- Rendering is injective on the paths that can be followed from one value. -/
theorem Path.eq_of_rendered_eq {p q : Path} {x y z : Option Value} (hp : p.follow x = some y)
    (hq : q.follow x = some z) (h : p.rendered = q.rendered) : p = q := by
  induction p, x using Path.follow.induct generalizing q with
  | case1 x => exact (List.map_eq_nil_iff.mp h.symm).symm
  | case2 name p entries ih =>
    cases q with
    | nil => cases h
    | cons seg q =>
      obtain ⟨hseg, hrest⟩ := List.cons_eq_cons.mp h
      cases seg with
      | key other =>
        obtain rfl : name = other := hseg
        rw [ih hp hq hrest]
      | index i => cases hq
  | case3 i p items hi ih =>
    cases q with
    | nil => cases h
    | cons seg q =>
      obtain ⟨hseg, hrest⟩ := List.cons_eq_cons.mp h
      cases seg with
      | key name => cases hq
      | index j =>
        obtain rfl : i = j := Segment.index_eq_of_rendered_eq hseg
        rw [follow, if_pos hi] at hp hq
        rw [ih hp hq hrest]
  | case4 i p items hi => simp [follow, hi] at hp
  | case5 seg p x h₁ h₂ => simp [follow] at hp

/-- No value can be followed along both of these, which rendering does not tell apart. -/
example : Path.rendered [.key "0", .index 0] = Path.rendered [.key "0", .key "0"] := rfl

namespace ErrorTree

/-! ## Addresses -/

/-- The address of the node that some keys lead to: the positions of the children on the way. -/
def address? (t : ErrorTree) : List String → Option (List Nat)
  | [] => some []
  | key :: keys =>
    (t.get? key).bind fun child => (child.address? keys).map (t.keys.idxOf key :: ·)

def nodeAt? (t : ErrorTree) : List Nat → Option ErrorTree
  | [] => some t
  | n :: address => t.children[n]?.bind fun child => child.2.nodeAt? address

variable {t : ErrorTree}

theorem address?_cons {key : String} {keys : List String} {address : List Nat}
    (h : t.address? (key :: keys) = some address) :
    ∃ child rest, t.get? key = some child ∧ child.address? keys = some rest ∧
      address = t.keys.idxOf key :: rest := by
  obtain ⟨child, hc, h⟩ := Option.bind_eq_some_iff.mp h
  obtain ⟨rest, hr, rfl⟩ := Option.map_eq_some_iff.mp h
  exact ⟨child, rest, hc, hr, rfl⟩

theorem mem_keys_of_get? {key : String} {child : ErrorTree} (h : t.get? key = some child) :
    key ∈ t.keys :=
  List.mem_map.mpr ⟨(key, child), Entries.mem_of_lookup h, rfl⟩

theorem children_idxOf {key : String} {child : ErrorTree} (h : t.get? key = some child) :
    ∃ e, t.children[t.keys.idxOf key]? = some e ∧ e.2 = child := by
  obtain ⟨before, after, he, hb⟩ := List.lookup_eq_some_iff.mp h
  have hn : key ∉ before.map Prod.fst := by
    intro hm
    obtain ⟨e, hmem, rfl⟩ := List.mem_map.mp hm
    simpa using hb e hmem
  have hi : t.keys.idxOf key = before.length := by
    rw [keys, Entries.names, he, List.map_append, List.idxOf_append_of_notMem hn]
    simp
  exact ⟨(key, child), by rw [hi, he]; simp, rfl⟩

/-- The address of some keys is that of the node to which they lead. -/
theorem nodeAt?_of_address? {keys : List String} {address : List Nat}
    (h : t.address? keys = some address) : t.nodeAt? address = t.walk? keys := by
  induction keys generalizing t address with
  | nil =>
    cases h
    rfl
  | cons key keys ih =>
    obtain ⟨child, rest, hc, hr, rfl⟩ := address?_cons h
    obtain ⟨e, he, rfl⟩ := children_idxOf hc
    rw [nodeAt?, he, walk?, hc, Option.bind_some, Option.bind_some, ih hr]

theorem exists_address_of_walk? {keys : List String} {node : ErrorTree}
    (h : t.walk? keys = some node) : ∃ address, t.address? keys = some address := by
  induction keys generalizing t with
  | nil => exact ⟨[], rfl⟩
  | cons key keys ih =>
    obtain ⟨child, hc, h⟩ := Option.bind_eq_some_iff.mp h
    obtain ⟨rest, hr⟩ := ih h
    exact ⟨t.keys.idxOf key :: rest, by rw [address?, hc, Option.bind_some, hr, Option.map_some]⟩

theorem eq_of_address?_eq {keys others : List String} {address : List Nat}
    (h : t.address? keys = some address) (ho : t.address? others = some address) :
    keys = others := by
  induction keys generalizing t others address with
  | nil =>
    cases h
    cases others with
    | nil => rfl
    | cons key others =>
      obtain ⟨_, _, _, _, hn⟩ := address?_cons ho
      cases hn
  | cons key keys ih =>
    obtain ⟨child, rest, hc, hr, rfl⟩ := address?_cons h
    cases others with
    | nil => cases ho
    | cons other others =>
      obtain ⟨child', rest', hc', hr', he⟩ := address?_cons ho
      obtain ⟨hi, rfl⟩ := List.cons_eq_cons.mp he
      obtain rfl : key = other := (List.idxOf_inj (mem_keys_of_get? hc)).mp hi
      obtain rfl : child = child' := Option.some.inj (hc.symm.trans hc')
      rw [ih hr hr']

theorem exists_address {issues : List Issue} {i : Issue} (hi : i ∈ issues) :
    ∃ address node, (ofIssues issues).address? i.path.rendered = some address ∧
      (ofIssues issues).nodeAt? address = some node ∧ node.Indexes issues i.path.rendered := by
  obtain ⟨node, hn⟩ : ∃ node, (ofIssues issues).walk? i.path.rendered = some node := by
    have hu : Posting.under i.path.rendered (issues.map Issue.posting) ≠ [] :=
      Posting.under_ne_nil_iff.mpr ⟨i.posting, List.mem_map_of_mem hi, List.prefix_rfl⟩
    rw [ofIssues_eq, walk?_ofPostings, if_pos (.inr hu)]
    exact ⟨_, rfl⟩
  obtain ⟨address, ha⟩ := exists_address_of_walk? hn
  exact ⟨address, node, ha, (nodeAt?_of_address? ha).trans hn, indexes_of_walk? hn⟩

end ErrorTree

/-- The address of the node of a tree that takes the message of an issue. -/
def Issue.landing? (i : Issue) (t : ErrorTree) : Option (List Nat) := t.address? i.path.rendered

theorem Call.path_eq_of_rendered_eq {c : Call} {v : Verdict} (hc : c.schema.Native)
    (hv : c.run.outcome = .ok v) {i j : Issue} (hi : i ∈ v.issues) (hj : j ∈ v.issues)
    (h : i.path.rendered = j.path.rendered) : i.path = j.path := by
  obtain ⟨p, _, hp, hfp, _⟩ := exists_follow_of_mem_issues hc hv hi
  obtain ⟨q, _, hq, hfq, _⟩ := exists_follow_of_mem_issues hc hv hj
  have hr : Path.rendered p = Path.rendered q := by
    rw [hp, hq] at h
    simpa [Path.rendered] using h
  rw [hp, hq, Path.eq_of_rendered_eq hfp hfq hr]

/-- Two issues of a validation, which comes to a verdict unless a callback is loud, land in one
node of its tree of errors just when their paths are equal. So the node in which an issue lands
holds the messages of the issues at its path and no others. -/
theorem issues_land_apart {s : Schema} (hs : s.Native) (input : Option Value) (path : Path) :
    (s.Quiet → ∃ verdict, (s.validate input path).outcome = .ok verdict) ∧
    ∀ verdict, (s.validate input path).outcome = .ok verdict →
      (∀ i ∈ verdict.issues, ∀ j ∈ verdict.issues,
        i.landing? (.ofIssues verdict.issues) = j.landing? (.ofIssues verdict.issues) ↔
          i.path = j.path) ∧
      ∀ i ∈ verdict.issues, ∃ address node,
        i.landing? (.ofIssues verdict.issues) = some address ∧
        (ErrorTree.ofIssues verdict.issues).nodeAt? address = some node ∧
        node.errors = (verdict.issues.filter fun j => j.path = i.path).map Issue.message := by
  refine ⟨fun hq => Schema.exists_verdict hs hq input path, fun verdict hv => ?_⟩
  have hr : ∀ i ∈ verdict.issues, ∀ j ∈ verdict.issues,
      i.path.rendered = j.path.rendered → i.path = j.path := fun i hi j hj =>
    Call.path_eq_of_rendered_eq (c := ⟨s, input, path⟩) hs hv hi hj
  refine ⟨?_, ?_⟩
  · intro i hi j hj
    obtain ⟨address, _, ha, _⟩ := ErrorTree.exists_address hi
    constructor
    · intro h
      exact hr i hi j hj (ErrorTree.eq_of_address?_eq ha (h.symm.trans ha))
    · intro h
      rw [Issue.landing?, Issue.landing?, h]
  · intro i hi
    obtain ⟨address, node, ha, hn, hx⟩ := ErrorTree.exists_address hi
    refine ⟨address, node, ha, hn, ?_⟩
    rw [hx.errors]
    congr 1
    apply List.filter_congr
    intro j hj
    rw [decide_eq_decide]
    exact ⟨hr j hj i hi, fun h => congrArg Path.rendered h⟩

/-- Codes and one record, under keys that look like indices. -/
def ledger : Schema :=
  .object
    [("0", .array (.string ((StringRules.min .none 2).startsWith "a")) .none),
      ("1", .object [("0", .string .none)] .strict none)]
    .strip none

def page : Value :=
  .object [("1", .object [("0", .null), ("2", .null)]),
    ("0", .array [.string "b", .bool true, .string "ab"])]

theorem native_ledger : ledger.Native := by
  have hcode : Schema.Native (.string ((StringRules.min .none 2).startsWith "a")) := .leaf rfl rfl
  have hstring : Schema.Native (.string .none) := .leaf rfl rfl
  have hcodes : Schema.Native (.array (.string ((StringRules.min .none 2).startsWith "a")) .none) :=
    .wrap rfl rfl hcode
  have hrecord : Schema.Native (.object [("0", .string .none)] .strict none) :=
    .wrap rfl rfl hstring
  exact .node rfl (List.forall_mem_cons.mpr ⟨hcodes, List.forall_mem_singleton.mpr hrecord⟩)

theorem issues_land_apart_ledger :
    ledger.Native ∧ ∃ verdict, (ledger.validate (some page) []).outcome = .ok verdict ∧
      verdict.issues.map Issue.path =
        [[.key "0", .index 0], [.key "0", .index 0], [.key "0", .index 1], [.key "1", .key "0"],
          [.key "1"]] ∧
      ∀ i ∈ verdict.issues, ∀ j ∈ verdict.issues,
        i.landing? (.ofIssues verdict.issues) = j.landing? (.ofIssues verdict.issues) ↔
          i.path = j.path := by
  obtain ⟨verdict, hv⟩ : ∃ verdict, (ledger.validate (some page) []).outcome = .ok verdict :=
    ⟨_, rfl⟩
  obtain ⟨_, hland⟩ := issues_land_apart native_ledger (some page) []
  obtain ⟨hl, _⟩ := hland verdict hv
  have hp : (ledger.validate (some page) []).outcome.map (fun v => v.issues.map Issue.path) =
    .ok [[.key "0", .index 0], [.key "0", .index 0], [.key "0", .index 1], [.key "1", .key "0"],
      [.key "1"]] := rfl
  rw [hv] at hp
  exact ⟨native_ledger, verdict, hv, Except.ok.inj hp, hl⟩

end Schemata
