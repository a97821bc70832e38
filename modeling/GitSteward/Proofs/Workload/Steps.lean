-- Every kind of move that an engine at work can make, with all that the move does to what requests
-- share. In its own name the engine counts and tells only what it takes on, what it turns away and
-- what it returns.
import GitSteward.Proofs.Routing
import Mathlib.Data.List.Induction

namespace GitSteward

/-- The service that the engine hands a request to under its deadline, watching for the end. -/
def Entry.dispatched? : Entry → Option Service
  | .serve name => Service.ofWireName? name
  | .handle s => some s
  | .runGit _ => none

/-- What a caller does to tokens by a move, and what time does. -/
def WorkloadMove.tokenStep? : WorkloadMove → Option TokenStep
  | .newToken => some .fresh
  | .childToken parent => some (.child parent)
  | .deadlineToken parent after => some (.deadline parent after)
  | .cancel token => some (.cancel token)
  | .advance span => some (.advance span)
  | .arrive .. | .work .. | .finish _ => none

namespace Workload

variable {w w' v : Workload} {m : WorkloadMove} {moves : List WorkloadMove} {i : Nat} {j : Job}

/-! ## What only tells of the work -/

/-- The work itself is the same, whatever has been told of it. -/
structure SameWork (w w' : Workload) : Prop where
  engine : w'.engine = w.engine
  tokens : w'.tokens = w.tokens
  jobs : w'.jobs = w.jobs

theorem SameWork.refl (w : Workload) : SameWork w w := ⟨rfl, rfl, rfl⟩

theorem SameWork.trans (h : SameWork w w') (h' : SameWork w' v) : SameWork w v :=
  ⟨h'.engine.trans h.engine, h'.tokens.trans h.tokens, h'.jobs.trans h.jobs⟩

theorem sameWork_write (w : Workload) (e : LogEvent) : SameWork w (w.write e) := ⟨rfl, rfl, rfl⟩

theorem sameWork_measure (w : Workload) (change : Metrics → Metrics) :
    SameWork w (w.measure change) := by
  unfold measure
  split
  · exact ⟨rfl, rfl, rfl⟩
  · exact .refl w

theorem sameWork_observe (w : Workload) (j : Job) (outcome : Outcome) :
    SameWork w (w.observe j outcome) := by
  unfold observe
  split
  · exact (sameWork_write w _).trans (sameWork_measure _ _)
  · exact .refl w

/-! ## What is told in other names -/

/-- Besides the work, the metrics are the same too, and the engine has told nothing. -/
structure Aside (w w' : Workload) : Prop extends SameWork w w' where
  metrics : w'.metrics = w.metrics
  log : ∃ told, w'.log = w.log ++ told ∧ ∀ e ∈ told, e.origin ≠ engineOrigin

theorem Aside.refl (w : Workload) : Aside w w := ⟨.refl w, rfl, [], by simp, nofun⟩

theorem Aside.trans (h : Aside w w') (h' : Aside w' v) : Aside w v := by
  obtain ⟨told, hl, ho⟩ := h.log
  obtain ⟨told', hl', ho'⟩ := h'.log
  refine ⟨h.toSameWork.trans h'.toSameWork, h'.metrics.trans h.metrics, told ++ told', ?_, ?_⟩
  · rw [hl', hl, List.append_assoc]
  · exact fun e he => (List.mem_append.mp he).elim (ho e) (ho' e)

theorem aside_write {e : LogEvent} (h : e.origin ≠ engineOrigin) : Aside w (w.write e) :=
  ⟨sameWork_write w e, rfl, [e], rfl, by simpa using h⟩

theorem origin_event (span : Option LogSpan) (f : Fault) :
    (f.event span).origin = "forgeserve::fault" := by
  cases f <;> rfl

theorem aside_report (span : LogSpan) (w : Workload) (f : Fault) : Aside w (report span w f) := by
  unfold report
  split
  · exact aside_write (by rw [origin_event]; decide)
  · exact ⟨⟨rfl, rfl, rfl⟩, rfl, [], by simp, nofun⟩

theorem aside_reports (span : LogSpan) (w : Workload) (faults : List Fault) :
    Aside w (faults.foldl (report span) w) := by
  induction faults generalizing w with
  | nil => exact .refl w
  | cons f faults ih => exact (aside_report span w f).trans (ih _)

/-! ## The kinds of moves -/

/-- The tokens when a request is returned: its own token is cancelled. -/
def released (w : Workload) (j : Job) : Tokens :=
  match j.ownToken with
  | some own => w.tokens.cancel own
  | none => w.tokens

/-- The state when a request has been returned. -/
def returning (w : Workload) (i : Nat) (j : Job) (outcome : Outcome) : Workload :=
  observe { w with
    tokens := w.released j, jobs := w.jobs.set i { j with outcome := some outcome } } j outcome

theorem sameWork_returning (w : Workload) (i : Nat) (j : Job) (outcome : Outcome) :
    SameWork { w with
      tokens := w.released j, jobs := w.jobs.set i { j with outcome := some outcome } }
      (w.returning i j outcome) :=
  sameWork_observe _ j outcome

/-- What a move makes of the work on a request. The work sees whether its token is cancelled. -/
inductive Works (w : Workload) (j : Job) : JobMove → Work → Prop
  | calls {c c' : Call} {m : Move} : j.work = .process c → m ≠ .cancel →
      ({ c with cancelled := w.tokens.isCancelled j.token } : Call).step m = some c' →
      Works w j (.call m) (.process c')
  | handles {run run' : HandlerRun} {e : HandlerEvent} : j.work = .handler run →
      ({ run with cancelled := w.tokens.isCancelled j.token } : HandlerRun).step e = some run' →
      Works w j (.handler e) (.handler run')

/-- Everything that an engine at work can do by one move. -/
inductive Turn (w : Workload) : WorkloadMove → Workload → Prop
  | dispatches {entry : Entry} {r : Request} {token : Nat} {s : Service} :
      entry.dispatched? = some s → Turn w (.arrive entry r token) (w.handle s r token)
  | rejects {name : String} {r : Request} {token : Nat} : Service.ofWireName? name = none →
      Turn w (.arrive (.serve name) r token) (w.reject name token)
  | runsGit {s : Service} {r : Request} {token : Nat} :
      Turn w (.arrive (.runGit s) r token) (w.runGit s r token)
  /-- a call that has no fault and is not killed is not told of -/
  | works {i : Nat} {jm : JobMove} {j : Job} {work : Work} {w' : Workload} :
      w.jobs[i]? = some j → Works w j jm work →
      Aside { w with jobs := w.jobs.set i { j with work } } w' →
      (∀ c, work = .process c → c.faults = [] → c.isKilling = false →
        w' = { w with jobs := w.jobs.set i { j with work } }) →
      Turn w (.work i jm) w'
  | finishes {i : Nat} {j : Job} {outcome : Outcome} : w.jobs[i]? = some j → j.outcome = none →
      j.work.outcome? = some outcome →
      Turn w (.finish i) (w.returning i j outcome)
  | tokens {m : WorkloadMove} {s : TokenStep} : m.tokenStep? = some s →
      Turn w m { w with tokens := w.tokens.apply s }

/-- A move on a call does nothing besides to the call, unless this has new faults or is killed. -/
theorem stepCall_cases {c : Call} {m : Move} (h : w.stepCall i j c m = some w') :
    ∃ c', ({ c with cancelled := w.tokens.isCancelled j.token } : Call).step m = some c' ∧
      Aside { w with jobs := w.jobs.set i { j with work := .process c' } } w' ∧
      (c'.faults = [] → c'.isKilling = false →
        w' = { w with jobs := w.jobs.set i { j with work := .process c' } }) := by
  obtain ⟨c', hc, h⟩ := Option.bind_eq_some_iff.mp h
  refine ⟨c', hc, ?_⟩
  cases h
  constructor
  · split
    · have other : processOrigin ≠ engineOrigin := by decide
      exact (aside_reports _ _ _).trans (aside_write other)
    · exact aside_reports _ _ _
  · intro hf hk
    simp [hf, hk]

theorem stepHandler_cases {run : HandlerRun} {e : HandlerEvent}
    (h : w.stepHandler i j run e = some w') :
    ∃ run', ({ run with cancelled := w.tokens.isCancelled j.token } : HandlerRun).step e =
        some run' ∧
      Aside { w with jobs := w.jobs.set i { j with work := .handler run' } } w' := by
  obtain ⟨run', hr, h⟩ := Option.bind_eq_some_iff.mp h
  refine ⟨run', hr, ?_⟩
  cases h
  split <;> exact ⟨⟨rfl, rfl, rfl⟩, rfl, [], by simp, nofun⟩

theorem finish_eq (w : Workload) (i : Nat) : w.finish i = w.jobs[i]?.bind fun j =>
    if j.outcome.isSome then none else j.work.outcome?.map (w.returning i j) := by
  unfold finish
  cases w.jobs[i]? with
  | none => rfl
  | some j =>
    simp only [Option.bind_eq_bind, Option.bind_some]
    split
    · rfl
    · cases j.work.outcome? <;> rfl

theorem turn_of_finish (h : w.finish i = some w') : Turn w (.finish i) w' := by
  rw [finish_eq] at h
  obtain ⟨j, hj, h⟩ := Option.bind_eq_some_iff.mp h
  split at h
  · cases h
  · rename_i hn
    obtain ⟨outcome, ho, rfl⟩ := Option.map_eq_some_iff.mp h
    exact .finishes hj (by simpa using hn) ho

theorem turn_of_step (h : w.step m = some w') : Turn w m w' := by
  cases m with
  | arrive entry r token =>
    cases h
    cases entry with
    | serve name =>
      cases hn : Service.ofWireName? name with
      | some s =>
        have same : w.arrive (.serve name) r token = w.handle s r token := by simp only [arrive, hn]
        rw [same]
        exact .dispatches hn
      | none =>
        have same : w.arrive (.serve name) r token = w.reject name token := by
          simp only [arrive, hn]
        rw [same]
        exact .rejects hn
    | handle s => exact .dispatches rfl
    | runGit s => exact .runsGit
  | work i jm =>
    obtain ⟨j, hj, h⟩ := Option.bind_eq_some_iff.mp h
    cases hw : j.work with
    | process c =>
      cases jm with
      | handler e => simp [hw] at h
      | call m =>
        simp only [hw] at h
        split at h
        · cases h
        · rename_i hm
          obtain ⟨c', hc, aside, quiet⟩ := stepCall_cases h
          refine .works hj (.calls hw ?_ hc) aside ?_
          · rintro rfl
            exact hm rfl
          · rintro _ ⟨⟩
            exact quiet
    | handler run =>
      cases jm with
      | call m => simp [hw] at h
      | handler e =>
        simp only [hw] at h
        obtain ⟨run', hr, aside⟩ := stepHandler_cases h
        refine .works hj (.handles hw hr) aside ?_
        rintro _ ⟨⟩
    | refused f => simp [hw] at h
  | finish i => exact turn_of_finish h
  | newToken =>
    cases h
    exact .tokens (s := .fresh) rfl
  | childToken parent =>
    cases h
    exact .tokens (s := .child parent) rfl
  | deadlineToken parent after =>
    cases h
    exact .tokens (s := .deadline parent after) rfl
  | cancel token =>
    cases h
    exact .tokens (s := .cancel token) rfl
  | advance span =>
    cases h
    exact .tokens (s := .advance span) rfl

/-! ## Taking requests on -/

/-- What tells that a request is dispatched. -/
def dispatchEvent (s : Service) (r : Request) : LogEvent where
  level := .debug
  origin := engineOrigin
  message := "dispatching service"
  fields := [("service", s.wireName), ("dir", r.dir)]

/-- What tells that a client named no service that there is. -/
def rejectEvent (name : String) : LogEvent where
  level := .warn
  origin := engineOrigin
  message := "unsupported service requested"
  fields := [("service", name)]

/-- The job of a request that is dispatched. With a deadline a token is made for it. -/
def dispatchedJob (w : Workload) (s : Service) (r : Request) (token : Nat) : Job :=
  let ownToken := w.engine.timeout.map fun _ => w.tokens.nodes.length
  { service := some s
    watched := true
    token := ownToken.getD token
    ownToken
    startedAt := w.tokens.clock
    work := workOf r (w.engine.backend s r) }

theorem handle_eq (w : Workload) (s : Service) (r : Request) (token : Nat) :
    w.handle s r token = { w with
      tokens := w.engine.timeout.elim w.tokens fun after => w.tokens.apply (.deadline token after)
      log := w.log ++ [dispatchEvent s r]
      jobs := w.jobs ++ [w.dispatchedJob s r token] } := by
  unfold handle dispatchedJob
  cases ht : w.engine.timeout with
  | none =>
    simp only [write, ht]
    rfl
  | some after =>
    simp only [write, ht]
    rfl

/-- The job of a request that is turned away by its name. -/
def rejectedJob (w : Workload) (name : String) (token : Nat) : Job where
  service := none
  watched := false
  token := token
  startedAt := w.tokens.clock
  work := .refused (.unsupported name)

theorem reject_eq (w : Workload) (name : String) (token : Nat) :
    w.reject name token = { w with
      log := w.log ++ [rejectEvent name]
      jobs := w.jobs ++ [w.rejectedJob name token]
      metrics := if w.engine.metrics then w.metrics.observeRejected (.unsupported name)
        else w.metrics } := by
  unfold reject measure
  cases hm : w.engine.metrics with
  | true =>
    simp only [write, hm]
    rfl
  | false =>
    simp only [write, hm]
    rfl

/-! ## Runs -/

/-- An engine that has not been asked for anything. -/
def idle (e : Engine) : Workload := { engine := e }

theorem run_append (w : Workload) (moves more : List WorkloadMove) :
    w.run (moves ++ more) = (w.run moves).bind (·.run more) := by
  induction moves generalizing w with
  | nil => rfl
  | cons m moves ih =>
    rw [List.cons_append, run, run, Option.bind_assoc]
    exact Option.bind_congr fun v _ => ih v

theorem run_concat (w : Workload) (moves : List WorkloadMove) (m : WorkloadMove) :
    w.run (moves ++ [m]) = (w.run moves).bind (·.step m) := by
  rw [run_append]
  refine Option.bind_congr fun v _ => ?_
  rw [run]
  cases v.step m <;> rfl

/-- What holds in the beginning and is kept by every move holds after all moves. -/
theorem run_induct {P : List WorkloadMove → Workload → Prop} (start : P [] w)
    (keep : ∀ {moves v m v'}, w.run moves = some v → P moves v → v.step m = some v' →
      P (moves ++ [m]) v') (ran : w.run moves = some w') : P moves w' := by
  induction moves using List.reverseRecOn generalizing w' with
  | nil =>
    cases ran
    exact start
  | append_singleton moves m ih =>
    rw [run_concat] at ran
    obtain ⟨v, ran, hs⟩ := Option.bind_eq_some_iff.mp ran
    exact keep ran (ih ran) hs

end Workload

end GitSteward
