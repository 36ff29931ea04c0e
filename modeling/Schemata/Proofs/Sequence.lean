import Schemata.Run

/-! # Runs over lists

A list of runs goes up to the first fault. Without one it gives every result in order and logs
everything; with one it logs only what came up to it, and the results before it are lost.
-/
namespace Schemata.Run
variable {α β γ : Type}

@[simp] theorem outcome_map (g : α → β) (x : Run α) : (g <$> x).outcome = x.outcome.map g := by
  rw [map_eq_pure_bind]
  cases h : x.outcome with
  | ok a => rw [bind_of_ok h]; rfl
  | error e => rw [bind_of_error h]; rfl

@[simp] theorem log_map (g : α → β) (x : Run α) : (g <$> x).log = x.log := by
  rw [map_eq_pure_bind]
  cases h : x.outcome with
  | ok a => rw [bind_of_ok h]; simp
  | error e => rw [bind_of_error h]

theorem outcome_bind_eq_ok {x : Run α} {f : α → Run β} {b : β} (h : (x >>= f).outcome = .ok b) :
    ∃ a, x.outcome = .ok a ∧ (f a).outcome = .ok b := by
  cases hx : x.outcome with
  | ok a =>
    rw [bind_of_ok hx] at h
    exact ⟨a, rfl, h⟩
  | error e =>
    rw [bind_of_error hx] at h
    cases h

theorem outcome_bind_eq_error {x : Run α} {f : α → Run β} {e : Payload}
    (h : (x >>= f).outcome = .error e) :
    x.outcome = .error e ∨ ∃ a, x.outcome = .ok a ∧ (f a).outcome = .error e := by
  cases hx : x.outcome with
  | ok a =>
    rw [bind_of_ok hx] at h
    exact .inr ⟨a, rfl, h⟩
  | error d =>
    rw [bind_of_error hx] at h
    cases h
    exact .inl rfl

theorem mapM_of_ok {f : α → Run β} {g : α → β} {l : List α}
    (h : ∀ a ∈ l, (f a).outcome = .ok (g a)) :
    l.mapM f = ⟨l.flatMap fun a => (f a).log, .ok (l.map g)⟩ := by
  induction l with
  | nil => rfl
  | cons a l ih =>
    have ha := h a List.mem_cons_self
    have hl := ih fun b hb => h b (List.mem_cons_of_mem _ hb)
    rw [List.mapM_cons, bind_of_ok ha, hl, bind_of_ok rfl]
    simp

theorem mapM_of_error {f : α → Run β} {before : List α} {a : α} {e : Payload} (after : List α)
    (hb : ∀ b ∈ before, ∃ r, (f b).outcome = .ok r) (ha : (f a).outcome = .error e) :
    (before ++ a :: after).mapM f =
      ⟨(before.flatMap fun b => (f b).log) ++ (f a).log, .error e⟩ := by
  induction before with
  | nil => rw [List.nil_append, List.mapM_cons, bind_of_error ha]; rfl
  | cons b before ih =>
    obtain ⟨r, hr⟩ := hb b List.mem_cons_self
    have hi := ih fun c hc => hb c (List.mem_cons_of_mem _ hc)
    rw [List.cons_append, List.mapM_cons, bind_of_ok hr, hi, bind_of_error rfl]
    simp

theorem outcome_of_mapM_ok {f : α → Run β} {l : List α} {rs : List β}
    (h : (l.mapM f).outcome = .ok rs) : ∀ a ∈ l, ∃ r, (f a).outcome = .ok r := by
  induction l generalizing rs with
  | nil => simp
  | cons a l ih =>
    rw [List.mapM_cons] at h
    obtain ⟨r, hr, h⟩ := outcome_bind_eq_ok h
    obtain ⟨rs', hrs, _⟩ := outcome_bind_eq_ok h
    intro b hb
    rcases List.mem_cons.mp hb with rfl | hb
    · exact ⟨r, hr⟩
    · exact ih hrs b hb

/-- When all members have results, the results are a function of the members. -/
theorem exists_results [Nonempty β] {f : α → Run β} {l : List α}
    (h : ∀ a ∈ l, ∃ r, (f a).outcome = .ok r) : ∃ g : α → β, ∀ a ∈ l, (f a).outcome = .ok (g a) :=
  ⟨fun a => Classical.epsilon fun r => (f a).outcome = .ok r,
    fun a ha => Classical.epsilon_spec (h a ha)⟩

theorem exists_of_mapM_ok [Nonempty β] {f : α → Run β} {l : List α} {rs : List β}
    (h : (l.mapM f).outcome = .ok rs) :
    ∃ g : α → β, (∀ a ∈ l, (f a).outcome = .ok (g a)) ∧ rs = l.map g := by
  obtain ⟨g, hg⟩ := exists_results (outcome_of_mapM_ok h)
  rw [mapM_of_ok hg] at h
  cases h
  exact ⟨g, hg, rfl⟩

theorem exists_of_mapM_error {f : α → Run β} {l : List α} {e : Payload}
    (h : (l.mapM f).outcome = .error e) :
    ∃ before a after, l = before ++ a :: after ∧ (∀ b ∈ before, ∃ r, (f b).outcome = .ok r) ∧
      (f a).outcome = .error e := by
  induction l with
  | nil => cases h
  | cons a l ih =>
    rw [List.mapM_cons] at h
    rcases outcome_bind_eq_error h with ha | ⟨r, hr, h⟩
    · exact ⟨[], a, l, rfl, by simp, ha⟩
    · rcases outcome_bind_eq_error h with hl | ⟨rs, _, h⟩
      · obtain ⟨before, c, after, rfl, hb, hc⟩ := ih hl
        refine ⟨a :: before, c, after, rfl, ?_, hc⟩
        intro b hb'
        rcases List.mem_cons.mp hb' with rfl | hb'
        · exact ⟨r, hr⟩
        · exact hb b hb'
      · cases h

theorem mapM_eq_of_map_eq {f : α → Run β} {g : γ → Run β} {l : List α} {l' : List γ}
    (h : l.map f = l'.map g) : l.mapM f = l'.mapM g := by
  have hf : (l.map f).mapM id = l.mapM f := List.mapM_map
  have hg : (l'.map g).mapM id = l'.mapM g := List.mapM_map
  rw [← hf, ← hg, h]

end Schemata.Run
