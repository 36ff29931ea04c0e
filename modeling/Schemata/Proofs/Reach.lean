import Schemata.Proofs.Call

/-! # Calls that are reached

A call enters a part when nothing before it stopped the call: no earlier part faulted, and in a
union no earlier part accepted. What is reached is entered in any number of steps. A fault of a
part that is entered is the fault of the call, and a call of the library's own has no other fault.
-/
namespace Schemata.Call

/-- Whether a call goes on after a verdict on one of its parts. -/
def GoesOnAfter : Call → Verdict → Prop
  | ⟨.union _ _, _, _⟩, .ok _ => False
  | _, _ => True

/-- A call enters a part when all parts before it let it. -/
def Enters (c d : Call) : Prop :=
  ∃ before after, c.parts = before ++ d :: after ∧
    ∀ b ∈ before, ∃ v, b.run.outcome = .ok v ∧ c.GoesOnAfter v

/-- The calls that an evaluation comes to. -/
abbrev Reaches : Call → Call → Prop := Relation.ReflTransGen Enters

theorem Enters.mem_parts {c d : Call} (h : c.Enters d) : d ∈ c.parts := by
  obtain ⟨before, after, hp, _⟩ := h
  simp [hp]

theorem Enters.every {p : Schema → Prop} {c d : Call} (h : c.Enters d) (hc : c.schema.Every p) :
    d.schema.Every p := hc.child (mem_children_of_mem_parts h.mem_parts)

theorem Reaches.every {p : Schema → Prop} {c d : Call} (h : c.Reaches d) (hc : c.schema.Every p) :
    d.schema.Every p := by
  induction h with
  | refl => exact hc
  | tail _ hd ih => exact hd.every ih

theorem goesOnAfter_of_isUnion_eq_false {c : Call} (h : c.isUnion = false) (v : Verdict) :
    c.GoesOnAfter v := by
  obtain ⟨s, x, p⟩ := c
  cases s with
  | union options message => cases h
  | _ => trivial

theorem enters_of_mem_parts {c d : Call} (hu : c.isUnion = false)
    (hp : ∀ b ∈ c.parts, ∃ v, b.run.outcome = .ok v) (hd : d ∈ c.parts) : c.Enters d := by
  obtain ⟨before, after, he⟩ := List.append_of_mem hd
  refine ⟨before, after, he, ?_⟩
  intro b hb
  obtain ⟨v, hv⟩ := hp b (by simp [he, hb])
  exact ⟨v, hv, goesOnAfter_of_isUnion_eq_false hu v⟩

/-! ## Unions -/

section Union
variable {x : Option Value} {p : Path}

theorem firstAccepted_of_refused {before : List Schema} (after : List Schema)
    (hb : ∀ o ∈ before, ∃ is, (o.validate x p).outcome = .ok (.error is)) :
    Schema.firstAccepted (before ++ after) x p =
      ⟨(before.flatMap fun o => (o.validate x p).log) ++ (Schema.firstAccepted after x p).log,
        (Schema.firstAccepted after x p).outcome⟩ := by
  induction before with
  | nil => simp
  | cons o before ih =>
    obtain ⟨is, ho⟩ := hb o List.mem_cons_self
    have hi := ih fun o' ho' => hb o' (List.mem_cons_of_mem _ ho')
    rw [List.cons_append, Schema.firstAccepted, Run.bind_of_ok ho, hi]
    simp

theorem firstAccepted_of_fault {o : Schema} {e : Payload} (after : List Schema)
    (ho : (o.validate x p).outcome = .error e) :
    Schema.firstAccepted (o :: after) x p = ⟨(o.validate x p).log, .error e⟩ := by
  rw [Schema.firstAccepted, Run.bind_of_error ho]

theorem firstAccepted_cases (options : List Schema) (x : Option Value) (p : Path) :
    (∃ before o after, options = before ++ o :: after ∧
      (∀ b ∈ before, ∃ is, (b.validate x p).outcome = .ok (.error is)) ∧
      ((∃ out, (o.validate x p).outcome = .ok (.ok out) ∧
          (Schema.firstAccepted options x p).outcome = .ok (some out)) ∨
        ∃ e, (o.validate x p).outcome = .error e ∧
          (Schema.firstAccepted options x p).outcome = .error e)) ∨
    (∀ o ∈ options, ∃ is, (o.validate x p).outcome = .ok (.error is)) ∧
      (Schema.firstAccepted options x p).outcome = .ok none := by
  induction options with
  | nil => exact .inr ⟨by simp, rfl⟩
  | cons o options ih =>
    match ho : (o.validate x p).outcome with
    | .error e =>
      refine .inl ⟨[], o, options, rfl, by simp, .inr ⟨e, ho, ?_⟩⟩
      rw [firstAccepted_of_fault options ho]
    | .ok (.ok out) =>
      refine .inl ⟨[], o, options, rfl, by simp, .inl ⟨out, ho, ?_⟩⟩
      rw [Schema.firstAccepted, Run.bind_of_ok ho]
      rfl
    | .ok (.error is) =>
      have hr : ∀ b ∈ [o], ∃ is, (b.validate x p).outcome = .ok (.error is) := by simp [ho]
      have hf := firstAccepted_of_refused options hr
      rw [List.singleton_append] at hf
      rcases ih with ⟨before, a, after, rfl, hb, ha⟩ | ⟨hb, hn⟩
      · refine .inl ⟨o :: before, a, after, rfl, ?_, by simpa [hf] using ha⟩
        intro b hm
        rcases List.mem_cons.mp hm with rfl | hm
        · exact ⟨is, ho⟩
        · exact hb b hm
      · refine .inr ⟨?_, by simpa [hf] using hn⟩
        intro b hm
        rcases List.mem_cons.mp hm with rfl | hm
        · exact ⟨is, ho⟩
        · exact hb b hm

theorem run_union_of_ok {options : List Schema} (message : Option String)
    {r : Option (Option Value)} (h : (Schema.firstAccepted options x p).outcome = .ok r) :
    run ⟨.union options message, x, p⟩ = ⟨(Schema.firstAccepted options x p).log,
      .ok (r.elim (Schema.unionRefusal message x p) .ok)⟩ := by
  simp only [run, Schema.validate, Run.bind_of_ok h]
  cases r <;> simp

theorem run_union_of_fault {options : List Schema} (message : Option String) {e : Payload}
    (h : (Schema.firstAccepted options x p).outcome = .error e) :
    run ⟨.union options message, x, p⟩ =
      ⟨(Schema.firstAccepted options x p).log, .error e⟩ := by
  simp only [run, Schema.validate, Run.bind_of_error h]

end Union

/-- What the evaluation of a union comes to is what an option that it enters comes to, or its own
refusal when every option refuses. -/
theorem union_cases {c : Call} (hu : c.isUnion = true) :
    (∃ d, c.Enters d ∧ c.run.outcome = d.run.outcome) ∨
      (∀ d ∈ c.parts, ∃ is, d.run.outcome = .ok (.error is)) ∧
        ∃ message, c.run.outcome = .ok (Schema.unionRefusal message c.input c.path) := by
  obtain ⟨s, x, p⟩ := c
  cases s with
  | union options message =>
    rcases firstAccepted_cases options x p with ⟨before, o, after, rfl, hb, ho⟩ | ⟨hr, hf⟩
    · refine .inl ⟨⟨o, x, p⟩, ⟨_, _, List.map_append, ?_⟩, ?_⟩
      · intro b hm
        obtain ⟨o', ho', rfl⟩ := List.mem_map.mp hm
        obtain ⟨is, his⟩ := hb o' ho'
        exact ⟨.error is, his, trivial⟩
      · rcases ho with ⟨out, ho, hf⟩ | ⟨e, ho, hf⟩
        · rw [run_union_of_ok message hf]
          exact ho.symm
        · rw [run_union_of_fault message hf]
          exact ho.symm
    · refine .inr ⟨List.forall_mem_map.mpr hr, message, ?_⟩
      rw [run_union_of_ok message hf]
      rfl
  | _ => cases hu

theorem exists_option_of_ok {options : List Schema} {message : Option String} {x out : Option Value}
    {p : Path} (h : (run ⟨.union options message, x, p⟩).outcome = .ok (.ok out)) :
    ∃ o ∈ options, (o.validate x p).outcome = .ok (.ok out) := by
  rcases union_cases (c := ⟨.union options message, x, p⟩) rfl with ⟨d, hd, ho⟩ | ⟨_, _, ho⟩
  · obtain ⟨o, hm, rfl⟩ := List.mem_map.mp hd.mem_parts
    exact ⟨o, hm, ho.symm.trans h⟩
  · cases ho.symm.trans h

end Schemata.Call
