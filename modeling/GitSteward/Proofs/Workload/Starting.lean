-- The start of a request. A request that the engine does not serve, or whose token is cancelled
-- when the work on it begins, fails with nothing touched. Every other request that goes to a
-- process has its hook run once, on the whole of the process, and what the hook leaves is started.
import GitSteward.Proofs.Call.Beginning
import GitSteward.Proofs.Workload.Calls

namespace GitSteward.Workload

variable {w w' : Workload} {i : Nat} {j j' : Job} {c c' start : Call} {m : WorkloadMove}
variable {moves : List WorkloadMove} {entry : Entry} {r : Request} {token : Nat} {name : String}
variable {runner : Runner} {given : Launch} {hook : Option Hook}

/-! ## Requests that are turned away -/

/-- A request that was turned away has no process and no handler. All that is left to do is to tell
the caller. -/
structure TurnedAway (w : Workload) (i : Nat) (name : String) (j : Job) : Prop where
  job : w.jobs[i]? = some j
  work : j.work = .refused (.unsupported name)
  outcome : ∀ outcome, j.outcome = some outcome → outcome = .error (.unsupported name)

theorem turnedAway_of_arrive (h : w.engine.TurnsAway entry name) :
    ∃ j, TurnedAway (w.arrive entry r token) w.jobs.length name j := by
  obtain ⟨j, taken⟩ := takenOn_arrive w entry r token
  refine ⟨j, ?_, ?_, ?_⟩
  · rw [taken.jobs, List.getElem?_concat_length]
  · rw [taken.work, h.backend]
    rfl
  · rw [taken.unreturned]
    intro _ h
    cases h

theorem TurnedAway.step (h : TurnedAway w i name j) (hs : w.step m = some w') :
    ∃ j', TurnedAway w' i name j' := by
  obtain ⟨j', hj', turn⟩ := (goesOn_of_step hs).turns i j h.job
  cases turn with
  | rests => exact ⟨j, hj', h.work, h.outcome⟩
  | calls hw | handles hw => cases h.work.symm.trans hw
  | finishes _ ho =>
    refine ⟨_, hj', h.work, ?_⟩
    rintro outcome ⟨⟩
    rw [h.work] at ho
    exact (Option.some.inj ho).symm

theorem TurnedAway.run (h : TurnedAway w i name j) (ran : w.run moves = some w') :
    ∃ j', TurnedAway w' i name j' := by
  induction moves generalizing w j with
  | nil =>
    cases ran
    exact ⟨j, h⟩
  | cons m rest ih =>
    obtain ⟨v, hs, ran⟩ := Option.bind_eq_some_iff.mp ran
    obtain ⟨j₁, h₁⟩ := h.step hs
    exact ih h₁ ran

/-- There is nothing to work on. -/
theorem TurnedAway.idle (h : TurnedAway w i name j) (m : JobMove) : w.step (.work i m) = none := by
  simp only [Workload.step, h.job, Option.bind_eq_bind, Option.bind_some, h.work]

/-- The caller can be told at once. -/
theorem TurnedAway.told (h : TurnedAway w i name j) (hn : j.outcome = none) :
    ∃ w', w.step (.finish i) = some w' := by
  simp only [Workload.step, finish, h.job, hn, h.work, Work.outcome?, Option.bind_eq_bind,
    Option.bind_some, Option.isSome_none, Bool.false_eq_true, if_false]
  exact ⟨_, rfl⟩

/-! ## Requests that go to a process -/

/-- A request that was cancelled before anything was touched. -/
structure Lapsed (hook : Option Hook) (given : Launch) (w : Workload) (j : Job) (c : Call) :
    Prop where
  unseen : c.Unseen hook given
  cancelled : w.tokens.isCancelled j.token

theorem Lapsed.turn (h : Lapsed hook given w j c) (hs : w.step m = some w')
    (ht : j'.token = j.token) (turn : CallTurn w j.token c c') : Lapsed hook given w' j' c' := by
  refine ⟨?_, by rw [ht]; exact (goesOn_of_step hs).tokens _ h.cancelled⟩
  cases turn with
  | rests he => exact he ▸ h.unseen
  | moves _ _ hc => exact (h.unseen.seeing _).stays h.cancelled hc

/-- A request that has lapsed is never touched. -/
theorem Follows.lapsed (fresh : start.IsFresh) (h : Follows start w i j c)
    (lapsed : Lapsed hook given w j c) (ran : w.run moves = some w') :
    ∃ j' c', Follows start w' i j' c' ∧ Lapsed hook given w' j' c' :=
  h.keeps fresh (fun hs ht turn lapsed => lapsed.turn hs ht turn) lapsed ran

theorem begun_of_follows (h : Follows (callOf r runner given) w i j c) :
    c.Begun r.hook given := by
  obtain ⟨_, ran⟩ := h.course
  exact Call.begun_of_run ran

/-- The streams of a call are those of its request. -/
theorem supplies_of_follows (h : Follows (callOf r runner given) w i j c) (s : StreamName) :
    c.supplies s = (callOf r runner given).supplies s := by
  obtain ⟨_, ran⟩ := h.course
  exact congrFun (Call.orderly_of_run ran).2.supplies s

/-- A move on a request that has no fault and is not killed reports nothing. -/
theorem quiet_of_step {jm : JobMove} (hs : w.step (.work i jm) = some w')
    (hj : w'.jobs[i]? = some j') (hw : j'.work = .process c') (hf : c'.faults = [])
    (hk : c'.isKilling = false) : w'.faults = w.faults ∧ w'.log = w.log := by
  cases turn_of_step hs with
  | works hj₀ _ aside quiet =>
    rw [aside.jobs, List.getElem?_set_self (List.getElem?_eq_some_iff.mp hj₀).1] at hj
    cases hj
    rw [quiet c' hw hf hk]
    exact ⟨rfl, rfl⟩
  | tokens ht => cases ht

/-! ## The law -/

/-- The process of a request, at any time, as far as its start is concerned. -/
structure StartsOnce (r : Request) (given : Launch) (w : Workload) (i : Nat) (j : Job) (c : Call) :
    Prop where
  job : w.jobs[i]? = some j
  work : j.work = .process c
  outcome : ∀ outcome, j.outcome = some outcome → c.outcome? = some outcome
  /-- nothing is touched, or the hook has run once, or it has and what it left was started -/
  begun : c.Begun r.hook given
  streams : c.hasStarted → c.launch =
    (given.changedBy r.hook).withStreams r.stdin.isSome r.stdout.isSome r.stderr.isSome
  /-- the look at the token decides -/
  looks : c.phase = .entering →
    ∃ w' j' c', w.step (.work i (.call .enter)) = some w' ∧ w'.jobs[i]? = some j' ∧
      j'.work = .process c' ∧
      if w.tokens.isCancelled j.token then
        c'.Unseen r.hook given ∧ c'.outcome? = some (.error .cancelled)
      else c'.Prepared r.hook given
  /-- after the hook the process can be started -/
  starts : c.phase = .starting →
    ∃ w' j' c', w.step (.work i (.call .spawn)) = some w' ∧ w'.jobs[i]? = some j' ∧
      j'.work = .process c' ∧ c'.Launched r.hook given
  /-- when it turns out that it cannot be, that is the outcome, and nothing else has happened -/
  fails : c.phase = .starting → ∀ e,
    ∃ w' j' c', w.step (.work i (.call (.spawnFails e))) = some w' ∧ w'.jobs[i]? = some j' ∧
      j'.work = .process c' ∧ c'.Prepared r.hook given ∧
      c'.outcome? = some (.error (Fault.ofStart e))
  /-- nothing is reported of a request whose process has not been started -/
  quiet : ∀ m w' j' c', w.step (.work i m) = some w' → w'.jobs[i]? = some j' →
    j'.work = .process c' → c'.hasStarted = false → w'.faults = w.faults ∧ w'.log = w.log
  /-- what is cancelled before the look stays untouched -/
  stays : c.Unseen r.hook given → w.tokens.isCancelled j.token →
    ∀ moves w', w.run moves = some w' →
      ∃ j' c', w'.jobs[i]? = some j' ∧ j'.work = .process c' ∧ c'.Unseen r.hook given

/-- What has become of a request that was taken on, as far as its start is concerned. -/
structure StartsInOrder (w : Workload) (entry : Entry) (r : Request) (token : Nat)
    (w' : Workload) : Prop where
  taken : (w.arrive entry r token).faults = w.faults
  /-- whatever the token and the request, the engine turns away what it does not serve -/
  unsupported : ∀ name, w.engine.TurnsAway entry name → ∃ j,
    TurnedAway w' w.jobs.length name j ∧ (∀ m, w'.step (.work w.jobs.length m) = none) ∧
    (j.outcome = none → ∃ v, w'.step (.finish w.jobs.length) = some v)
  /-- everything else is served -/
  served : (∀ name, ¬ w.engine.TurnsAway entry name) →
    (∃ runner given, entry.backend w.engine r = .process runner given) ∨
      ∃ handler, entry.backend w.engine r = .handler handler
  supervised : ∀ runner given, entry.backend w.engine r = .process runner given →
    ∃ s j c, entry.service? = some s ∧ Engine.Assembles s r runner given ∧
      StartsOnce r given w' w.jobs.length j c ∧
      (w.tokens.isCancelled token → c.Unseen r.hook given)

theorem Follows.startsOnce (h : Follows (callOf r runner given) w i j c) :
    StartsOnce r given w i j c := by
  have ho := h.orderly isFresh_callOf
  have begun := begun_of_follows h
  refine ⟨h.job, h.work, h.outcome, begun, ?_, ?_, ?_, ?_, ?_, ?_⟩
  · intro hs
    cases begun with
    | unseen hu => simp [Call.hasStarted, hu.untouched.child] at hs
    | prepared hu => simp [Call.hasStarted, hu.untouched.child] at hs
    | launched hl =>
      rw [hl.launch, supplies_of_follows h, supplies_of_follows h, supplies_of_follows h]
      rfl
  · intro hp
    have hu := (begun.unseen_of_entering ho hp).seeing (w.tokens.isCancelled j.token)
    obtain ⟨c', hc, decided⟩ := hu.looks hp
    obtain ⟨w', j', hs, h'⟩ := h.makes isFresh_callOf hc (by simp)
    exact ⟨w', j', c', hs, h'.job, h'.work, decided⟩
  · intro hp
    have ready := (begun.prepared_of_starting ho hp).seeing (w.tokens.isCancelled j.token)
    obtain ⟨c', hc, launched⟩ := ready.starts hp
    obtain ⟨w', j', hs, h'⟩ := h.makes isFresh_callOf hc (by simp)
    exact ⟨w', j', c', hs, h'.job, h'.work, launched⟩
  · intro hp e
    have ready := (begun.prepared_of_starting ho hp).seeing (w.tokens.isCancelled j.token)
    obtain ⟨c', hc, refused, hout⟩ := ready.fails hp e
    obtain ⟨w', j', hs, h'⟩ := h.makes isFresh_callOf hc (by simp)
    exact ⟨w', j', c', hs, h'.job, h'.work, refused, hout⟩
  · intro m w' j' c' hs hj hw hn
    obtain ⟨j₁, c₁, h₁, _⟩ := h.step isFresh_callOf hs
    cases h₁.job.symm.trans hj
    cases h₁.work.symm.trans hw
    exact quiet_of_step hs hj hw ((begun_of_follows h₁).untouched hn).faults
      (Call.not_killing (h₁.orderly isFresh_callOf) hn)
  · intro hu hx moves w' ran
    obtain ⟨j', c', h', lapsed⟩ := h.lapsed isFresh_callOf ⟨hu, hx⟩ ran
    exact ⟨j', c', h'.job, h'.work, lapsed.unseen⟩

/-- A request that fails before its process is started has touched nothing. What the engine does
not serve is turned away whatever its token says. A request whose token is cancelled when the
work on it begins is cancelled. In every other request that goes to a process, the hook sees the
whole of it once, and what it leaves is started with the streams of the caller, or cannot be. -/
theorem nothing_is_touched_before_the_start
    (ran : (w.arrive entry r token).run moves = some w') :
    StartsInOrder w entry r token w' := by
  refine ⟨?_, ?_, Engine.served_of_entry r, ?_⟩
  · obtain ⟨j, taken⟩ := takenOn_arrive w entry r token
    exact taken.faults
  · intro name h
    obtain ⟨j₀, away₀⟩ : ∃ j, TurnedAway (w.arrive entry r token) w.jobs.length name j :=
      turnedAway_of_arrive h
    obtain ⟨j, away⟩ := away₀.run ran
    exact ⟨j, away, away.idle, away.told⟩
  · intro runner given hb
    obtain ⟨s, hs, _, assembles⟩ := Engine.assembles_of_entry hb
    obtain ⟨j₀, h₀, hx⟩ := follows_of_arrive token hb
    obtain ⟨j, c, h⟩ := h₀.run isFresh_callOf ran
    refine ⟨s, j, c, hs, assembles, h.startsOnce, fun cancelled => ?_⟩
    obtain ⟨j₁, c₁, h₁, lapsed⟩ :=
      h₀.lapsed isFresh_callOf ⟨Call.unseen_ofRequest, hx cancelled⟩ ran
    cases h₁.job.symm.trans h.job
    cases h₁.work.symm.trans h.work
    exact lapsed.unseen

/-- A server whose requests have a deadline, with one token, which is cancelled. -/
def stoppedServer : Workload where
  engine := .ofSettings .empty [.timeout 5, .disableLfs]
  tokens := Tokens.root.cancel 0

/-- A request with all streams and a hook that adds an argument. -/
def hookedRequest : Request where
  dir := "/srv/a.git"
  stdin := some {}
  stdout := some {}
  stderr := some {}
  hook := some (·.addArg "--strict")

/-- The work looks at a token of its own, which is cancelled from the beginning. -/
theorem a_request_on_a_cancelled_token_touches_nothing :
    ∃ w' j c, (stoppedServer.arrive (.handle .uploadPack) hookedRequest 0).run
        [.work 0 (.call .enter), .finish 0] = some w' ∧
      w'.jobs[0]? = some j ∧ j.token = 1 ∧ j.outcome = some (.error .cancelled) ∧
      j.work = .process c ∧ c.Untouched ∧ c.shown = [] := by
  have ran : (stoppedServer.arrive (.handle .uploadPack) hookedRequest 0).run
      [.work 0 (.call .enter), .finish 0] = some _ := rfl
  obtain ⟨_, j, c, _, _, starts, unseen⟩ :=
    (nothing_is_touched_before_the_start ran).supervised _ _ rfl
  have hu := unseen rfl
  have hj := starts.job
  cases hj
  exact ⟨_, _, c, ran, rfl, rfl, rfl, starts.work, hu.untouched, hu.shown⟩

end GitSteward.Workload
