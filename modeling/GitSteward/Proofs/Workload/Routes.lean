-- Which backend serves which request. A name stands for a service only if it is exactly the name
-- of that service. Each request that is taken on is handed to one backend, as it came in: to git,
-- or to what the engine has for the large file service in question. What serves one large file
-- service makes no difference to any request for another service.
import GitSteward.Proofs.Workload.Effects
import GitSteward.Proofs.Workload.Starting

namespace GitSteward

/-- A name that is that of no service stands for none. -/
theorem Service.ofWireName?_eq_none {name : String} (h : ∀ s : Service, name ≠ s.wireName) :
    ofWireName? name = none := by
  cases hn : ofWireName? name with
  | none => rfl
  | some s => exact absurd (wireName_of_ofWireName? hn).symm (h s)

example : Service.ofWireName? "GIT-UPLOAD-PACK" = none := by decide +kernel

/-! ## Handlers -/

namespace HandlerRun

variable {run run' : HandlerRun} {event : HandlerEvent}

/-- Whether a handler has been called and has not begun yet. -/
def isCalled (run : HandlerRun) : Bool := run.phase matches .called

/-- A handler that has begun, on the request that it was called with. -/
structure Begun (run run' : HandlerRun) : Prop where
  handler : run'.handler = run.handler
  request : run'.request = run.request
  begun : run'.isCalled = false

theorem begun_write (run : HandlerRun) (left : Bytes) : Begun run (run.write left) := by
  unfold write afterWriting
  split
  · by_cases hw : run.handler.waits
    · exact ⟨rfl, rfl, by simp [isCalled, hw]⟩
    · exact ⟨rfl, rfl, by simp [isCalled, hw]⟩
  · exact ⟨rfl, rfl, rfl⟩

/-- A handler begins by its start, and by nothing else. -/
theorem begun_of_step (h : run.step event = some run') :
    Begun run run' ∧ (run.isCalled ↔ event = .start) := by
  unfold step at h
  split at h
  · rename_i hp
    cases h
    exact ⟨begun_write run _, by simp [isCalled, hp]⟩
  · rename_i left n hp
    have other : run.isCalled ↔ HandlerEvent.sink (.takes n) = .start := by simp [isCalled, hp]
    split at h
    · cases h
      exact ⟨⟨rfl, rfl, rfl⟩, other⟩
    · split at h
      · cases h
        obtain ⟨handler, request, begun⟩ :=
          begun_write { run with taken := run.taken.append (left.take n) } (left.drop n)
        exact ⟨⟨handler, request, begun⟩, other⟩
      · cases h
  · rename_i left hp
    cases h
    exact ⟨⟨rfl, rfl, by simp [isCalled, hp]⟩, by simp [isCalled, hp]⟩
  · rename_i left e hp
    cases h
    exact ⟨⟨rfl, rfl, rfl⟩, by simp [isCalled, hp]⟩
  · rename_i hp
    have other : run.isCalled ↔ HandlerEvent.look = .start := by simp [isCalled, hp]
    split at h
    · cases h
      exact ⟨⟨rfl, rfl, rfl⟩, other⟩
    · cases h
      exact ⟨⟨rfl, rfl, by simp [isCalled, hp]⟩, other⟩
  · cases h

/-- A handler that has ended does nothing any more. -/
theorem not_ended_of_step (h : run.step event = some run') (b : Bool) :
    (Work.handler { run with cancelled := b }).outcome? = none := by
  unfold step at h
  split at h <;> simp_all [Work.outcome?]

end HandlerRun

/-! ## Engines that differ in one place -/

namespace Engine

/-- Two engines that differ at most in what serves one large file service. -/
structure SameBut (t : Service) (e e' : Engine) : Prop where
  git : e'.git = e.git
  registry : e'.registry = e.registry
  timeout : e'.timeout = e.timeout
  slots : ∀ s, s ≠ t → e'.lfsBackend? s = e.lfsBackend? s

variable {e e' : Engine} {s t : Service}

theorem SameBut.metrics (h : SameBut t e e') : e'.metrics = e.metrics := by
  rw [Engine.metrics, Engine.metrics, h.registry]

theorem SameBut.gitBackend (h : SameBut t e e') (s : Service) (r : Request) :
    e'.gitBackend s r = e.gitBackend s r := by
  rw [Engine.gitBackend, Engine.gitBackend, h.git]

/-- Every other service has the backend that it had. -/
theorem SameBut.backend (h : SameBut t e e') (hs : s ≠ t) (r : Request) :
    e'.backend s r = e.backend s r := by
  have slot := h.slots s hs
  cases hb : e.lfsBackend? s with
  | none =>
    rw [(backend_of_git (r := r) hb).2, (backend_of_git (r := r) (slot.trans hb)).2, h.gitBackend]
  | some b => rw [backend_of_lfs hb, backend_of_lfs (slot.trans hb)]

end Engine

/-- Whether a request is handed to what serves a service. -/
def WorkloadMove.asksFor (s : Service) : WorkloadMove → Bool
  | .arrive entry _ _ => entry.dispatched? = some s
  | _ => false

namespace Workload

variable {w w' : Workload} {m : WorkloadMove} {moves : List WorkloadMove} {e' : Engine}
variable {s t : Service} {i token : Nat} {j : Job} {entry : Entry} {r : Request}

/-- The state with another engine in the place of its own. -/
def on (w : Workload) (e : Engine) : Workload := { w with engine := e }

theorem arrive_on (h : w.engine.SameBut t e') (hs : entry.dispatched? ≠ some t) (r : Request)
    (token : Nat) : (w.on e').arrive entry r token = (w.arrive entry r token).on e' := by
  have dispatched {s : Service} (hne : s ≠ t) :
      (w.on e').handle s r token = (w.handle s r token).on e' := by
    rw [handle_eq, handle_eq]
    simp only [dispatchedJob, on, h.timeout, h.backend hne]
  cases entry with
  | serve name =>
    cases hn : Service.ofWireName? name with
    | some s =>
      simp only [arrive, hn]
      exact dispatched fun hst => hs (hst ▸ hn)
    | none =>
      simp only [arrive, hn, reject_eq, on, h.metrics]
      rfl
  | handle s => exact dispatched fun hst => hs (hst ▸ rfl)
  | runGit s =>
    have same := h.gitBackend s r
    simp only [arrive, runGit, addJob, on, same]

theorem measure_on (h : w.engine.SameBut t e') (change : Metrics → Metrics) :
    (w.on e').measure change = (w.measure change).on e' := by
  simp only [measure, on, h.metrics]
  split <;> rfl

theorem observe_on (h : w.engine.SameBut t e') (j : Job) (outcome : Outcome) :
    (w.on e').observe j outcome = (w.observe j outcome).on e' := by
  unfold observe
  split
  · exact measure_on (w := w.write _) h _
  · rfl

theorem returning_on (h : w.engine.SameBut t e') (i : Nat) (j : Job) (outcome : Outcome) :
    (w.on e').returning i j outcome = (w.returning i j outcome).on e' :=
  observe_on (w := { w with
    tokens := w.released j, jobs := w.jobs.set i { j with outcome := some outcome } }) h j outcome

/-- No move but a request for the one service can tell the two engines apart. -/
theorem step_on (h : w.engine.SameBut t e') (hm : m.asksFor t = false) :
    (w.on e').step m = (w.step m).map (·.on e') := by
  cases m with
  | arrive entry r token =>
    have hs : entry.dispatched? ≠ some t := by simpa [WorkloadMove.asksFor] using hm
    exact congrArg some (arrive_on h hs r token)
  | work i jm =>
    rw [work_eq, work_eq, Option.map_bind]
    refine Option.bind_congr fun j _ => ?_
    rw [Function.comp_apply, Option.map_map]
    simp only [on, h.git]
    rfl
  | finish i =>
    rw [step, step, finish_eq, finish_eq, Option.map_bind]
    refine Option.bind_congr fun j _ => ?_
    rw [Function.comp_apply]
    split
    · rfl
    · rw [Option.map_map, funext (returning_on h i j)]
      rfl
  | newToken | childToken | deadlineToken | cancel | advance => rfl

theorem run_on (h : w.engine.SameBut t e') (hm : ∀ m ∈ moves, m.asksFor t = false) :
    (w.on e').run moves = (w.run moves).map (·.on e') := by
  induction moves generalizing w with
  | nil => rfl
  | cons m rest ih =>
    rw [run, run, step_on h (hm m List.mem_cons_self)]
    cases hs : w.step m with
    | none => rfl
    | some v =>
      have same : v.engine = w.engine := (goesOn_of_step hs).engine
      exact ih (same ▸ h) fun m hmem => hm m (List.mem_cons_of_mem _ hmem)

/-! ## Handing back -/

/-- The caller of a request gets the outcome of the work on it, as it is. -/
structure HandsBack (w : Workload) (i : Nat) (j : Job) : Prop where
  job : w.jobs[i]? = some j
  unchanged : ∀ outcome, j.outcome = some outcome → j.work.outcome? = some outcome
  at_once : ∀ outcome, j.outcome = none → j.work.outcome? = some outcome →
    ∃ w' j', w.step (.finish i) = some w' ∧ w'.jobs[i]? = some j' ∧ j'.outcome = some outcome

theorem handsBack (hj : w.jobs[i]? = some j)
    (ho : ∀ outcome, j.outcome = some outcome → j.work.outcome? = some outcome) :
    HandsBack w i j := by
  refine ⟨hj, ho, fun outcome hn hw => ?_⟩
  refine ⟨w.returning i j outcome, { j with outcome := some outcome }, ?_, ?_, rfl⟩
  · simp [step, finish_eq, hj, hn, hw]
  · rw [(sameWork_returning w i j outcome).jobs]
    exact List.getElem?_set_self (List.getElem?_eq_some_iff.mp hj).1

/-! ## Requests that are turned away -/

theorem TurnedAway.back {name : String} (h : TurnedAway w i name j) : HandsBack w i j :=
  handsBack h.job fun outcome ho => by
    rw [h.outcome outcome ho, h.work]
    rfl

theorem turnedAway_of_run {name : String} (h : w.engine.TurnsAway entry name)
    (ran : (w.arrive entry r token).run moves = some w') :
    ∃ j, TurnedAway w' w.jobs.length name j ∧ (∀ m, w'.step (.work w.jobs.length m) = none) ∧
      HandsBack w' w.jobs.length j := by
  obtain ⟨j₀, away₀⟩ : ∃ j, TurnedAway (w.arrive entry r token) w.jobs.length name j :=
    turnedAway_of_arrive h
  obtain ⟨j, away⟩ := away₀.run ran
  exact ⟨j, away, away.idle, away.back⟩

/-! ## Requests that go to a process -/

/-- What a call is made from: the request as it came in, and a runner. -/
structure Receives (s : Service) (r : Request) (runner : Runner) (start : Call) : Prop where
  /-- the program, the directory, the arguments and the environment -/
  launch : Engine.Assembles s r runner start.launch
  hook : start.hook = r.hook
  stdin : start.hasStdin = r.stdin.isSome
  stdout : start.hasStdout = r.stdout.isSome
  stderr : start.hasStderr = r.stderr.isSome
  limit : start.captureLimit = runner.context.captureLimit

/-- A request that a process serves. -/
structure Supervised (s : Service) (r : Request) (runner : Runner) (w : Workload) (i : Nat)
    (j : Job) : Prop where
  back : HandsBack w i j
  /-- one call is made for the request, and has come this far by moves of its own -/
  call : ∃ start c ms, Receives s r runner start ∧ start.run ms = some c ∧ j.work = .process c
  no_handler : ∀ event, w.step (.work i (.handler event)) = none

theorem supervised_of_run {runner : Runner} {launch : Launch}
    (hb : entry.backend w.engine r = .process runner launch)
    (assembles : Engine.Assembles s r runner launch)
    (ran : (w.arrive entry r token).run moves = some w') :
    ∃ j, Supervised s r runner w' w.jobs.length j := by
  obtain ⟨j, c, h⟩ := follows_of_run hb ran
  obtain ⟨ms, hms⟩ := h.course
  refine ⟨j, handsBack h.job fun outcome ho => ?_, ⟨_, c, ms, ?_, hms, h.work⟩, fun event => ?_⟩
  · rw [h.work]
    exact h.outcome outcome ho
  · exact ⟨assembles, rfl, rfl, rfl, rfl, rfl⟩
  · simp [work_eq, h.job, h.work, Work.seeing, Work.step]

/-! ## Requests that go to a handler -/

/-- Whether a move starts the handler of a request. -/
def startsHandler (i : Nat) : WorkloadMove → Bool
  | .work k (.handler .start) => k = i
  | _ => false

/-- How often the handler of a request is started. -/
def starts (i : Nat) (moves : List WorkloadMove) : Nat := moves.countP (startsHandler i)

theorem starts_concat (i : Nat) (moves : List WorkloadMove) (m : WorkloadMove) :
    starts i (moves ++ [m]) = starts i moves + if startsHandler i m then 1 else 0 := by
  simp [starts, List.countP_append, List.countP_singleton]

theorem startsHandler_elsewhere (h : m.concerns i = false) : startsHandler i m = false := by
  cases m with
  | work k jm =>
    cases jm with
    | call => rfl
    | handler e => cases e <;> first | rfl | exact h
  | _ => rfl

/-- A handler at work on a request, after some moves. -/
structure Attends (h : Handler) (r : Request) (i : Nat) (moves : List WorkloadMove) (w : Workload)
    (j : Job) (run : HandlerRun) : Prop where
  job : w.jobs[i]? = some j
  work : j.work = .handler run
  handler : run.handler = h
  request : run.request = r
  started : starts i moves = if run.isCalled then 0 else 1
  outcome : ∀ outcome, j.outcome = some outcome → j.work.outcome? = some outcome

theorem Attends.step {h : Handler} {run : HandlerRun} (a : Attends h r i moves w j run)
    (hs : w.step m = some w') : ∃ j' run', Attends h r i (moves ++ [m]) w' j' run' := by
  obtain ⟨j', hj', turn⟩ := (goesOn_of_step hs).turns i j a.job
  cases turn with
  | rests hm =>
    refine ⟨j, run, hj', a.work, a.handler, a.request, ?_, a.outcome⟩
    rw [starts_concat, startsHandler_elsewhere hm, a.started]
    rfl
  | calls hw => cases a.work.symm.trans hw
  | @handles _ run' e hw hr =>
    cases a.work.symm.trans hw
    obtain ⟨begun, first⟩ := HandlerRun.begun_of_step hr
    -- a start is what a handler that has been called waits for, and no other waits for it
    have called : startsHandler i (.work i (.handler e)) = run.isCalled := by
      have seen : HandlerRun.isCalled { run with cancelled := w.tokens.isCancelled j.token } =
          run.isCalled := rfl
      rw [seen] at first
      cases e <;> simp_all [startsHandler]
    refine ⟨_, run', hj', rfl, begun.handler.trans a.handler, begun.request.trans a.request, ?_, ?_⟩
    · rw [starts_concat, called, a.started, begun.begun]
      cases run.isCalled <;> rfl
    · intro outcome ho
      have ended := HandlerRun.not_ended_of_step hr run.cancelled
      have here := a.outcome outcome ho
      rw [a.work] at here
      exact absurd (ended.symm.trans here) (by simp)
  | finishes _ ho =>
    refine ⟨_, run, hj', a.work, a.handler, a.request, ?_, fun outcome h => ?_⟩
    · rw [starts_concat, a.started]
      rfl
    · cases h
      exact ho

theorem attends_of_run {h : Handler} (hb : entry.backend w.engine r = .handler h)
    (ran : (w.arrive entry r token).run moves = some w') :
    ∃ j run, Attends h r w.jobs.length moves w' j run := by
  refine run_induct (P := fun moves v => ∃ j run, Attends h r w.jobs.length moves v j run)
    ?_ (fun _ ⟨_, _, a⟩ hs => a.step hs) ran
  obtain ⟨j, taken⟩ := takenOn_arrive w entry r token
  refine ⟨j, .ofRequest h r, ?_, ?_, rfl, rfl, rfl, ?_⟩
  · rw [taken.jobs, List.getElem?_concat_length]
  · rw [taken.work, hb]
    rfl
  · rw [taken.unreturned]
    intro _ h
    cases h

/-- A request that a handler serves. -/
structure Handled (h : Handler) (r : Request) (moves : List WorkloadMove) (w : Workload) (i : Nat)
    (j : Job) : Prop where
  back : HandsBack w i j
  /-- the handler gets the request as it came in, and is started once at most -/
  call : ∃ run, j.work = .handler run ∧ run.handler = h ∧ run.request = r ∧
    starts i moves = if run.isCalled then 0 else 1
  /-- before a request is returned, its handler has been started -/
  once : j.outcome.isSome → starts i moves = 1
  no_process : ∀ m, w.step (.work i (.call m)) = none

theorem handled_of_run {h : Handler} (hb : entry.backend w.engine r = .handler h)
    (ran : (w.arrive entry r token).run moves = some w') :
    ∃ j, Handled h r moves w' w.jobs.length j := by
  obtain ⟨j, run, a⟩ := attends_of_run hb ran
  refine ⟨j, handsBack a.job a.outcome, ⟨run, a.work, a.handler, a.request, a.started⟩, ?_, ?_⟩
  · intro returned
    obtain ⟨outcome, ho⟩ := Option.isSome_iff_exists.mp returned
    have ended := a.outcome outcome ho
    have begun : run.isCalled = false := by
      rw [a.work] at ended
      cases hp : run.phase <;> simp_all [Work.outcome?, HandlerRun.isCalled]
    rw [a.started, begun]
    rfl
  · intro m
    simp [work_eq, a.job, a.work, Work.seeing, Work.step]

/-! ## The law -/

/-- Which backend serves which request, whatever else an engine is at work on. -/
structure RoutingLaw (w : Workload) : Prop where
  /-- to ask for a service by its exact name is to ask for the service -/
  named : ∀ name (s : Service) r token, name = s.wireName →
    w.step (.arrive (.serve name) r token) = w.step (.arrive (.handle s) r token)
  /-- every other name is turned away as it was given, and nothing is called for it -/
  unnamed : ∀ name r token moves w', (∀ s : Service, name ≠ s.wireName) →
    (w.arrive (.serve name) r token).run moves = some w' →
    ∃ j, TurnedAway w' w.jobs.length name j ∧ (∀ m, w'.step (.work w.jobs.length m) = none) ∧
      HandsBack w' w.jobs.length j
  /-- a request is one piece of work, and leaves all other work as it is -/
  one : ∀ (s : Service) r token, ∃ j, (w.arrive (.handle s) r token).jobs = w.jobs ++ [j]
  /-- git serves the services of git -/
  git : ∀ (s : Service) r token moves w', s.isProcessBacked →
    (w.arrive (.handle s) r token).run moves = some w' →
    ∃ j, Supervised s r w.engine.git w' w.jobs.length j
  /-- a large file service is served by the program that the engine has for it -/
  program : ∀ s runner r token moves w', w.engine.lfsBackend? s = some (.program runner) →
    (w.arrive (.handle s) r token).run moves = some w' →
    ∃ j, Supervised s r runner w' w.jobs.length j
  /-- or by the handler that it has -/
  handler : ∀ s h r token moves w', w.engine.lfsBackend? s = some (.handler h) →
    (w.arrive (.handle s) r token).run moves = some w' →
    ∃ j, Handled h r moves w' w.jobs.length j
  /-- or it is turned away by its name -/
  disabled : ∀ s r token moves w', w.engine.lfsBackend? s = some .disabled →
    (w.arrive (.handle s) r token).run moves = some w' →
    ∃ j, TurnedAway w' w.jobs.length s.wireName j ∧
      (∀ m, w'.step (.work w.jobs.length m) = none) ∧ HandsBack w' w.jobs.length j
  /-- as long as nobody asks for one large file service, it makes no difference what serves it -/
  elsewhere : ∀ t e' moves, w.engine.SameBut t e' → (∀ m ∈ moves, m.asksFor t = false) →
    (w.on e').run moves = (w.run moves).map (·.on e')

/-- Each request is handed to the backend of its service, as it came in, and to no other. -/
theorem each_service_has_a_backend_of_its_own (w : Workload) : RoutingLaw w where
  named name s r token hn := by
    subst hn
    simp only [step, arrive, Service.ofWireName?_wireName]
  unnamed name r token moves w' hn ran :=
    turnedAway_of_run (.unknown (Service.ofWireName?_eq_none hn)) ran
  one s r token := by
    rw [arrive, handle_eq]
    exact ⟨_, rfl⟩
  git s r token moves w' hs ran := by
    have hb : (Entry.handle s).backend w.engine r = .process w.engine.git
        (r.gitLaunch w.engine.git.program w.engine.git.context.ambient s) := by
      cases s <;> first | rfl | cases hs
    have hg : w.engine.gitBackend s r = .process w.engine.git
        (r.gitLaunch w.engine.git.program w.engine.git.context.ambient s) := by
      simp [Engine.gitBackend, hs]
    exact supervised_of_run hb (Engine.assembles_gitBackend hg).2 ran
  program s runner r token moves w' hs ran := by
    have hb : (Entry.handle s).backend w.engine r =
        .process runner (r.launch runner.program runner.context.ambient) :=
      Engine.backend_of_lfs hs
    exact supervised_of_run hb (Engine.assembles_backend hb).2 ran
  handler s h r token moves w' hs ran := by
    have hb : (Entry.handle s).backend w.engine r = .handler h := Engine.backend_of_lfs hs
    exact handled_of_run hb ran
  disabled s r token moves w' hs ran := turnedAway_of_run (.disabled hs) ran
  elsewhere t e' moves h hm := run_on h hm

end Workload

end GitSteward
