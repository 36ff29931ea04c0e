import Schemata.Schema.Build

/-! # Chains of effects

Checks and mappers put on a schema one after another run as a railway. A value that the schema gives
goes from step to step, kept by the checks and replaced by the mappers, up to the first step that
fails, whose text is then all that is reported. A loud step leaves nothing to report: what its
payload throws ends the chain. Without a value to start from, no step is called.
-/
namespace Schemata

namespace Response
variable {α : Type}

/-- What is reported of a callback that does not accept and is not loud. -/
def failure? : Response α → Option String
  | .accept _ => none
  | .reject message => some message
  | .fault (.quiet (.message text)) => some text
  | .fault (.quiet .wordless) => some "panic with non-string payload"
  | .fault (.loud _) | .fault .endless => none

theorem accepts_or_fails_or_bursts (r : Response α) :
    (∃ a, r = .accept a) ∨ (∃ text, r.failure? = some text) ∨ ∃ next, r.burst? = some next := by
  match r with
  | .accept a => exact .inl ⟨a, rfl⟩
  | .reject message => exact .inr (.inl ⟨message, rfl⟩)
  | .fault (.quiet (.message text)) => exact .inr (.inl ⟨text, rfl⟩)
  | .fault (.quiet .wordless) => exact .inr (.inl ⟨_, rfl⟩)
  | .fault (.loud _) | .fault .endless => exact .inr (.inr ⟨_, rfl⟩)

theorem failure?_ofPredicate {holds : Value → Response Bool} {v : Value} {text : String}
    (h : (holds v).failure? = some text) (name message : String) :
    ((Check.ofPredicate name holds message).run v).failure? = some text := by
  match hv : holds v with
  | .accept b =>
    rw [hv] at h
    cases h
  | .reject m | .fault (.quiet (.message m)) | .fault (.quiet .wordless) | .fault (.loud next)
  | .fault .endless =>
    rw [hv] at h
    simp only [Check.ofPredicate, hv]
    exact h

theorem burst?_ofPredicate {holds : Value → Response Bool} {v : Value} {left : Payload}
    (h : (holds v).burst? = some left) (name message : String) :
    ((Check.ofPredicate name holds message).run v).burst? = some left := by
  match hv : holds v with
  | .accept b | .reject m =>
    rw [hv] at h
    cases h
  | .fault p =>
    rw [hv] at h
    simp only [Check.ofPredicate, hv]
    exact h

theorem settle_of_failure {r : Response α} {text : String} (h : r.failure? = some text) :
    r.settle = .ok (.error text) := by
  match r with
  | .accept a | .fault (.loud next) | .fault .endless => cases h
  | .reject message | .fault (.quiet (.message text)) | .fault (.quiet .wordless) => cases h; rfl

end Response

/-! ## One callback -/

namespace Callback
variable {α : Type} {c : Callback α} {p : Path} {next : Value → α → Value} {x : Run Verdict}
variable {v : Value}

theorem bind_after_of_value (hx : x.outcome = .ok (.ok (some v))) :
    x >>= c.after p next = ⟨x.log ++ [.called c.name v], c.respond p next v⟩ := by
  rw [Run.bind_of_ok hx, after_some]

theorem bind_after_of_accept (hx : x.outcome = .ok (.ok (some v))) {a : α}
    (h : c.run v = .accept a) :
    x >>= c.after p next = ⟨x.log ++ [.called c.name v], .ok (.ok (some (next v a)))⟩ := by
  have hr : c.respond p next v = .ok (.ok (some (next v a))) := by
    rw [respond, h]
    rfl
  rw [bind_after_of_value hx, hr]

theorem bind_after_of_failure (hx : x.outcome = .ok (.ok (some v))) {text : String}
    (h : (c.run v).failure? = some text) :
    x >>= c.after p next =
      ⟨x.log ++ [.called c.name v], .ok (.error (.single (.custom p text)))⟩ := by
  have hr : c.respond p next v = .ok (.error (.single (.custom p text))) := by
    rw [respond, Response.settle_of_failure h]
    rfl
  rw [bind_after_of_value hx, hr]

theorem bind_after_of_burst (hx : x.outcome = .ok (.ok (some v))) {left : Payload}
    (h : (c.run v).burst? = some left) :
    x >>= c.after p next = ⟨x.log ++ [.called c.name v], .error left⟩ := by
  rw [bind_after_of_value hx, respond_eq_error_iff.mpr h]

theorem bind_after_of_no_value (hx : ∀ v, x.outcome ≠ .ok (.ok (some v))) :
    x >>= c.after p next = x := by
  match h : x.outcome with
  | .error e =>
    rw [Run.bind_of_error h]
    exact Run.ext rfl h.symm
  | .ok (.error is) =>
    rw [Run.bind_of_ok h, after_error]
    exact Run.ext (List.append_nil _) h.symm
  | .ok (.ok none) =>
    rw [Run.bind_of_ok h, after_none]
    exact Run.ext (List.append_nil _) h.symm
  | .ok (.ok (some v)) => exact absurd h (hx v)

end Callback

/-- A step of a chain: a predicate with a message, a check that words its own, or a mapper. -/
inductive Effect
  | refine (name : String) (holds : Value → Response Bool) (message : String)
  | refineWith (check : Check)
  | transform (mapper : Mapper)

namespace Effect

def apply (s : Schema) : Effect → Schema
  | .refine name holds message => .refine s (.ofPredicate name holds message)
  | .refineWith check => .refine s check
  | .transform mapper => .transform s mapper

def name : Effect → String
  | .refine name _ _ => name
  | .refineWith check => check.name
  | .transform mapper => mapper.name

def call (e : Effect) (v : Value) : Event := .called e.name v

/-! ## One step -/

/-- A step lets a value go on, or another one in its place. -/
inductive Passes : Effect → Value → Value → Prop
  | refine {name : String} {holds : Value → Response Bool} {message : String} {v : Value}
    (h : holds v = .accept true) : Passes (.refine name holds message) v v
  | refineWith {check : Check} {v : Value} (h : check.run v = .accept ()) :
    Passes (.refineWith check) v v
  | transform {mapper : Mapper} {v w : Value} (h : mapper.run v = .accept w) :
    Passes (.transform mapper) v w

/-- A step ends the chain at a value, with a text. -/
inductive Stops : Effect → Value → String → Prop
  | untrue {name : String} {holds : Value → Response Bool} {message : String} {v : Value}
    (h : holds v = .accept false) : Stops (.refine name holds message) v message
  | refine {name : String} {holds : Value → Response Bool} {message text : String} {v : Value}
    (h : (holds v).failure? = some text) : Stops (.refine name holds message) v text
  | refineWith {check : Check} {text : String} {v : Value}
    (h : (check.run v).failure? = some text) : Stops (.refineWith check) v text
  | transform {mapper : Mapper} {text : String} {v : Value}
    (h : (mapper.run v).failure? = some text) : Stops (.transform mapper) v text

/-- A loud step ends the chain at a value, with what its payload throws. -/
inductive Breaks : Effect → Value → Payload → Prop
  | refine {name : String} {holds : Value → Response Bool} {message : String} {v : Value}
    {left : Payload} (h : (holds v).burst? = some left) : Breaks (.refine name holds message) v left
  | refineWith {check : Check} {v : Value} {left : Payload}
    (h : (check.run v).burst? = some left) : Breaks (.refineWith check) v left
  | transform {mapper : Mapper} {v : Value} {left : Payload}
    (h : (mapper.run v).burst? = some left) : Breaks (.transform mapper) v left

theorem passes_or_stops_or_breaks (e : Effect) (v : Value) :
    (∃ w, e.Passes v w) ∨ (∃ text, e.Stops v text) ∨ ∃ left, e.Breaks v left := by
  cases e with
  | refine name holds message =>
    rcases (holds v).accepts_or_fails_or_bursts with ⟨b, h⟩ | ⟨text, h⟩ | ⟨left, h⟩
    · cases b with
      | true => exact .inl ⟨v, .refine h⟩
      | false => exact .inr (.inl ⟨message, .untrue h⟩)
    · exact .inr (.inl ⟨text, .refine h⟩)
    · exact .inr (.inr ⟨left, .refine h⟩)
  | refineWith check =>
    rcases (check.run v).accepts_or_fails_or_bursts with ⟨_, h⟩ | ⟨text, h⟩ | ⟨left, h⟩
    · exact .inl ⟨v, .refineWith h⟩
    · exact .inr (.inl ⟨text, .refineWith h⟩)
    · exact .inr (.inr ⟨left, .refineWith h⟩)
  | transform mapper =>
    rcases (mapper.run v).accepts_or_fails_or_bursts with ⟨w, h⟩ | ⟨text, h⟩ | ⟨left, h⟩
    · exact .inl ⟨w, .transform h⟩
    · exact .inr (.inl ⟨text, .transform h⟩)
    · exact .inr (.inr ⟨left, .transform h⟩)

variable {s : Schema} {e : Effect} {x : Option Value} {p : Path} {v w : Value} {text : String}
variable {left : Payload}

theorem validate_apply_of_passes (hx : (s.validate x p).outcome = .ok (.ok (some v)))
    (he : e.Passes v w) :
    (e.apply s).validate x p = ⟨(s.validate x p).log ++ [e.call v], .ok (.ok (some w))⟩ := by
  cases he with
  | @refine name holds message _ h =>
    have hrun : (Check.ofPredicate name holds message).run v = .accept () := by
      simp only [Check.ofPredicate, h]
    exact Callback.bind_after_of_accept hx hrun
  | refineWith h => exact Callback.bind_after_of_accept hx h
  | transform h => exact Callback.bind_after_of_accept hx h

theorem validate_apply_of_stops (hx : (s.validate x p).outcome = .ok (.ok (some v)))
    (he : e.Stops v text) :
    (e.apply s).validate x p =
      ⟨(s.validate x p).log ++ [e.call v], .ok (.error (.single (.custom p text)))⟩ := by
  cases he with
  | @untrue name holds message _ h =>
    have hrun : ((Check.ofPredicate name holds text).run v).failure? = some text := by
      simp only [Check.ofPredicate, h, Response.failure?]
    exact Callback.bind_after_of_failure hx hrun
  | refine h => exact Callback.bind_after_of_failure hx (Response.failure?_ofPredicate h _ _)
  | refineWith h => exact Callback.bind_after_of_failure hx h
  | transform h => exact Callback.bind_after_of_failure hx h

theorem validate_apply_of_breaks (hx : (s.validate x p).outcome = .ok (.ok (some v)))
    (he : e.Breaks v left) :
    (e.apply s).validate x p = ⟨(s.validate x p).log ++ [e.call v], .error left⟩ := by
  cases he with
  | refine h => exact Callback.bind_after_of_burst hx (Response.burst?_ofPredicate h _ _)
  | refineWith h => exact Callback.bind_after_of_burst hx h
  | transform h => exact Callback.bind_after_of_burst hx h

theorem validate_apply_of_no_value (hx : ∀ v, (s.validate x p).outcome ≠ .ok (.ok (some v))) :
    (e.apply s).validate x p = s.validate x p := by
  cases e with
  | refine name holds message | refineWith check | transform mapper =>
    exact Callback.bind_after_of_no_value hx

/-! ## Any number of steps -/

/-- Steps let a value go on from the first to the last, each of them seeing what came to it. -/
inductive Threads : List Effect → Value → List Value → Value → Prop
  | nil (v : Value) : Threads [] v [] v
  | cons {e : Effect} {steps : List Effect} {v w u : Value} {seen : List Value}
    (h : e.Passes v w) (hs : Threads steps w seen u) : Threads (e :: steps) v (v :: seen) u

/-- Steps called once each, in their order, on what they see. -/
def calls (steps : List Effect) (seen : List Value) : List Event := List.zipWith call steps seen

theorem Threads.length_eq {steps : List Effect} {seen : List Value} (h : Threads steps v seen w) :
    seen.length = steps.length := by
  induction h with
  | nil v => rfl
  | cons _ _ ih => exact congrArg (· + 1) ih

theorem calls_concat {steps : List Effect} {seen : List Value}
    (h : Threads steps v seen w) (e : Effect) (u : Value) :
    calls (steps ++ [e]) (seen ++ [u]) = calls steps seen ++ [e.call u] :=
  List.zipWith_append h.length_eq.symm

theorem threads_or_ends (steps : List Effect) (v : Value) :
    (∃ seen w, Threads steps v seen w) ∨ ∃ before e after seen w,
      steps = before ++ e :: after ∧ Threads before v seen w ∧
        ((∃ text, e.Stops w text) ∨ ∃ left, e.Breaks w left) := by
  induction steps generalizing v with
  | nil => exact .inl ⟨[], v, .nil v⟩
  | cons e steps ih =>
    rcases e.passes_or_stops_or_breaks v with ⟨w, he⟩ | he
    · rcases ih w with ⟨seen, u, h⟩ | ⟨before, d, after, seen, u, rfl, h, hd⟩
      · exact .inl ⟨v :: seen, u, .cons he h⟩
      · exact .inr ⟨e :: before, d, after, v :: seen, u, rfl, .cons he h, hd⟩
    · exact .inr ⟨[], e, steps, [], v, rfl, .nil v, he⟩

end Effect

namespace Schema

/-- A schema with the steps of a chain put on it, the first one inside. -/
def chained (s : Schema) (steps : List Effect) : Schema := steps.foldl Effect.apply s

section Chained
variable {s : Schema} {steps : List Effect} {x : Option Value} {p : Path} {v w : Value}
variable {seen : List Value}

theorem validate_chained_of_no_value (hx : ∀ v, (s.validate x p).outcome ≠ .ok (.ok (some v))) :
    (s.chained steps).validate x p = s.validate x p := by
  induction steps generalizing s with
  | nil => rfl
  | cons e steps ih =>
    have he := Effect.validate_apply_of_no_value (e := e) hx
    have hi := ih (s := e.apply s) (by rwa [he])
    exact hi.trans he

theorem validate_chained_of_threads (hx : (s.validate x p).outcome = .ok (.ok (some v)))
    (h : Effect.Threads steps v seen w) :
    (s.chained steps).validate x p =
      ⟨(s.validate x p).log ++ Effect.calls steps seen, .ok (.ok (some w))⟩ := by
  induction h generalizing s with
  | nil v => exact Run.ext (List.append_nil _).symm hx
  | @cons e steps v w u seen he _ ih =>
    have hstep := Effect.validate_apply_of_passes hx he
    have hi := ih (s := e.apply s) (by rw [hstep])
    rw [hstep, List.append_assoc] at hi
    exact hi

/-- Up to the step that gives no value the chain runs as if that were the last, and after it not at
all. -/
theorem validate_chained_of_end {before after : List Effect} {e : Effect}
    {ending : Except Payload Verdict} (hx : (s.validate x p).outcome = .ok (.ok (some v)))
    (h : Effect.Threads before v seen w)
    (he : (e.apply (s.chained before)).validate x p =
      ⟨((s.chained before).validate x p).log ++ [e.call w], ending⟩)
    (hend : ∀ u, ending ≠ .ok (.ok (some u))) :
    (s.chained (before ++ e :: after)).validate x p =
      ⟨(s.validate x p).log ++ Effect.calls (before ++ [e]) (seen ++ [w]), ending⟩ := by
  have hsplit : s.chained (before ++ e :: after) = (e.apply (s.chained before)).chained after :=
    List.foldl_append
  have hafter : ((e.apply (s.chained before)).chained after).validate x p =
      (e.apply (s.chained before)).validate x p :=
    validate_chained_of_no_value fun u => by rw [he]; exact hend u
  rw [hsplit, hafter, he, validate_chained_of_threads hx h, Effect.calls_concat h,
    List.append_assoc]

theorem validate_chained_of_stops {before after : List Effect} {e : Effect} {text : String}
    (hx : (s.validate x p).outcome = .ok (.ok (some v))) (h : Effect.Threads before v seen w)
    (he : e.Stops w text) :
    (s.chained (before ++ e :: after)).validate x p =
      ⟨(s.validate x p).log ++ Effect.calls (before ++ [e]) (seen ++ [w]),
        .ok (.error (.single (.custom p text)))⟩ := by
  have hbefore := validate_chained_of_threads hx h
  have hstep := Effect.validate_apply_of_stops (s := s.chained before) (by rw [hbefore]) he
  exact validate_chained_of_end hx h hstep nofun

theorem validate_chained_of_breaks {before after : List Effect} {e : Effect} {left : Payload}
    (hx : (s.validate x p).outcome = .ok (.ok (some v))) (h : Effect.Threads before v seen w)
    (he : e.Breaks w left) :
    (s.chained (before ++ e :: after)).validate x p =
      ⟨(s.validate x p).log ++ Effect.calls (before ++ [e]) (seen ++ [w]), .error left⟩ := by
  have hbefore := validate_chained_of_threads hx h
  have hstep := Effect.validate_apply_of_breaks (s := s.chained before) (by rw [hbefore]) he
  exact validate_chained_of_end hx h hstep nofun

/-- A chain on an input: what comes of each end of the schema below it, and of each value. -/
structure Railway (s : Schema) (steps : List Effect) (x : Option Value) (p : Path) : Prop where
  refused : ∀ is, (s.validate x p).outcome = .ok (.error is) →
    (s.chained steps).validate x p = ⟨(s.validate x p).log, .ok (.error is)⟩
  absent : (s.validate x p).outcome = .ok (.ok none) →
    (s.chained steps).validate x p = ⟨(s.validate x p).log, .ok (.ok none)⟩
  faulted : ∀ f, (s.validate x p).outcome = .error f →
    (s.chained steps).validate x p = ⟨(s.validate x p).log, .error f⟩
  passed_or_ended : ∀ v, (∃ seen w, Effect.Threads steps v seen w) ∨
    ∃ before e after seen w, steps = before ++ e :: after ∧ Effect.Threads before v seen w ∧
      ((∃ text, e.Stops w text) ∨ ∃ left, e.Breaks w left)
  passed : ∀ v seen w, (s.validate x p).outcome = .ok (.ok (some v)) →
    Effect.Threads steps v seen w →
      seen.length = steps.length ∧ (s.chained steps).validate x p =
        ⟨(s.validate x p).log ++ Effect.calls steps seen, .ok (.ok (some w))⟩
  stopped : ∀ v before e after seen w text, (s.validate x p).outcome = .ok (.ok (some v)) →
    steps = before ++ e :: after → Effect.Threads before v seen w → e.Stops w text →
      seen.length = before.length ∧ (s.chained steps).validate x p =
        ⟨(s.validate x p).log ++ Effect.calls (before ++ [e]) (seen ++ [w]),
          .ok (.error (.single ⟨p, text, .custom, none, none⟩))⟩
  broken : ∀ v before e after seen w left, (s.validate x p).outcome = .ok (.ok (some v)) →
    steps = before ++ e :: after → Effect.Threads before v seen w → e.Breaks w left →
      seen.length = before.length ∧ (s.chained steps).validate x p =
        ⟨(s.validate x p).log ++ Effect.calls (before ++ [e]) (seen ++ [w]), .error left⟩

end Chained
end Schema

/-- A chain of steps on a schema and an input. A failure of the schema, an output without a value or
a fault is that of the chain, and no step is called. On a value the steps are called in their order,
each at most once and on what came through those before it: either all let it through, and the last
value is the output, or there is a first that does not, and nothing after it is called. When that
step stops, the one issue is its text at the path of the input; when it is loud, nothing is reported
and the chain faults with what its payload throws. -/
theorem effects_run_as_railway (s : Schema) (steps : List Effect) (x : Option Value) (p : Path) :
    s.Railway steps x p where
  refused is h := by
    rw [Schema.validate_chained_of_no_value (by simp [h])]
    exact Run.ext rfl h
  absent h := by
    rw [Schema.validate_chained_of_no_value (by simp [h])]
    exact Run.ext rfl h
  faulted f h := by
    rw [Schema.validate_chained_of_no_value (by simp [h])]
    exact Run.ext rfl h
  passed_or_ended := Effect.threads_or_ends steps
  passed _ _ _ hx h := ⟨h.length_eq, Schema.validate_chained_of_threads hx h⟩
  stopped := by
    rintro v before e after seen w text hx rfl h he
    exact ⟨h.length_eq, Schema.validate_chained_of_stops hx h he⟩
  broken := by
    rintro v before e after seen w left hx rfl h he
    exact ⟨h.length_eq, Schema.validate_chained_of_breaks hx h he⟩

/-- A number is doubled, looked at, and then a step fails without words. -/
def brittleSteps : List Effect :=
  [.transform ⟨"double", fun
      | .number (.int n) => .accept (.int (2 * n))
      | _ => .reject "no integer"⟩,
    .refine "short" (fun v => .accept (v.text.length < 3)) "too long",
    .refineWith ⟨"explode", fun _ => .fault Fault.wordless⟩,
    .transform ⟨"erase", fun _ => .accept .null⟩]

theorem effects_run_as_railway_brittleSteps :
    (Schema.chained .anyNumber brittleSteps).validate (some (.int 21)) [.key "n"] =
        ⟨[.called "double" (.int 21), .called "short" (.int 42), .called "explode" (.int 42)],
          .ok (.error (.single ⟨[.key "n"], "panic with non-string payload", .custom, none,
            none⟩))⟩ ∧
      (Schema.chained .anyNumber (brittleSteps.take 2)).validate (some (.int 21)) [] =
        ⟨[.called "double" (.int 21), .called "short" (.int 42)], .ok (.ok (some (.int 42)))⟩ ∧
      (Schema.chained (.optional .anyNumber) brittleSteps).validate none [] =
        ⟨[], .ok (.ok none)⟩ := by
  have hthreads : Effect.Threads (brittleSteps.take 2) (.int 21) [.int 21, .int 42] (.int 42) :=
    .cons (.transform rfl) (.cons (.refine rfl) (.nil _))
  have hstopped := (effects_run_as_railway .anyNumber brittleSteps (some (.int 21))
    [.key "n"]).stopped _ _ _ _ _ _ _ rfl rfl hthreads (.refineWith rfl)
  have hpassed := (effects_run_as_railway .anyNumber (brittleSteps.take 2) (some (.int 21))
    []).passed _ _ _ rfl hthreads
  exact ⟨hstopped.2, hpassed.2, (effects_run_as_railway _ brittleSteps none []).absent rfl⟩

/-- One step, whose payload throws another one when it is dropped. -/
def loudStep : Effect :=
  .transform ⟨"explode", fun _ => .fault (.loud (Fault.message "dropped"))⟩

/-- A loud step is called, but nothing is reported of it. -/
theorem validate_loudStep :
    (Schema.chained .any [loudStep]).validate (some (.int 1)) [] =
      ⟨[.called "explode" (.int 1)], .error (.quiet (.message "dropped"))⟩ := rfl

end Schemata
