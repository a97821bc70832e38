-- The calls of an engine at work. Whatever else the engine works on, the call of a request is one
-- that moves of its own have led to, and it is cancelled only when its token is. So what holds
-- of every call that runs by itself holds of the calls of an engine.
import GitSteward.Proofs.Call.Phases
import GitSteward.Proofs.Workload.Jobs

namespace GitSteward

namespace Call

variable {c c' start : Call} {m : Move} {ms : List Move} {outcome : Outcome}

/-! ## What moves leave as it is -/

/-- An outcome that was returned is not taken back. -/
theorem outcome_stays (ho : c.Orderly) (hs : c.step m = some c')
    (h : c.outcome? = some outcome) : c'.outcome? = some outcome := by
  rcases ho.turn hs with t | ⟨_, same⟩
  · have elsewhere {p : CallPhase} (hp : c.phase = p) : p = .returned outcome :=
      hp ▸ phase_of_outcome h
    cases t with
    | cancel | childEnds => exact h
    | refuses hp | enters hp | spawns hp | spawnFails _ hp | idles hp => cases elsewhere hp
    | kills hp | awaits hp | settles _ hp | waitFails _ hp =>
      rcases hp with hp | hp <;> cases elsewhere hp
    | reaps _ hp => cases elsewhere hp
  · rw [same.outcome?, h]

/-- What a call knows of its token comes from the token alone. -/
theorem cancelled_of_step (ho : c.Orderly) (hm : m ≠ .cancel) (hs : c.step m = some c') :
    c'.cancelled = c.cancelled := by
  rcases ho.turn hs with t | ⟨_, same⟩
  · cases t with
    | cancel => exact absurd rfl hm
    | _ => rfl
  · exact same.cancelled

/-- A call that looks its token up may find that it was cancelled meanwhile. -/
theorem run_seeing {b : Bool} (ran : start.run ms = some c) (hb : c.cancelled → b) :
    ∃ ms, start.run ms = some { c with cancelled := b } := by
  cases b with
  | true =>
    refine ⟨ms ++ [.cancel], ?_⟩
    rw [run_append, ran]
    rfl
  | false =>
    have calm : c.cancelled = false := by simpa using hb
    exact ⟨ms, by rw [ran, ← calm]⟩

/-- Calls as they are made for requests. -/
def IsFresh (start : Call) : Prop :=
  ∃ r launch limit capacity, start = ofRequest r launch limit capacity

theorem IsFresh.orderly (fresh : IsFresh start) (ran : start.run ms = some c) : c.Orderly := by
  obtain ⟨r, launch, limit, capacity, rfl⟩ := fresh
  exact (orderly_of_run ran).1

end Call

namespace Workload

variable {w w' : Workload} {i : Nat} {j : Job} {c c' start : Call} {m : WorkloadMove}
variable {moves : List WorkloadMove} {entry : Entry} {r : Request} {token : Nat}
variable {runner : Runner} {launch : Launch}

/-! ## The call of a request -/

/-- The call of a request has come this far by moves of its own. -/
structure Follows (start : Call) (w : Workload) (i : Nat) (j : Job) (c : Call) : Prop where
  job : w.jobs[i]? = some j
  work : j.work = .process c
  course : ∃ moves, start.run moves = some c
  cancelled : c.cancelled → w.tokens.isCancelled j.token
  outcome : ∀ outcome, j.outcome = some outcome → c.outcome? = some outcome

/-- How one move takes a call on: the call sees whether its token is cancelled and makes a move
of its own, or it rests. -/
inductive CallTurn (w : Workload) (token : Nat) (c c' : Call) : Prop
  | rests : c' = c → CallTurn w token c c'
  | moves (m : Move) : m ≠ .cancel →
      ({ c with cancelled := w.tokens.isCancelled token } : Call).step m = some c' →
      CallTurn w token c c'

theorem Follows.orderly (fresh : start.IsFresh) (h : Follows start w i j c) : c.Orderly := by
  obtain ⟨ms, ran⟩ := h.course
  exact fresh.orderly ran

theorem Follows.step (fresh : start.IsFresh) (h : Follows start w i j c)
    (hs : w.step m = some w') :
    ∃ j' c', Follows start w' i j' c' ∧ j'.token = j.token ∧ CallTurn w j.token c c' := by
  have on := goesOn_of_step hs
  have seen : c.cancelled → w'.tokens.isCancelled j.token := fun hx => on.tokens _ (h.cancelled hx)
  obtain ⟨j', hj', turn⟩ := on.turns i j h.job
  cases turn with
  | rests => exact ⟨j, c, ⟨hj', h.work, h.course, seen, h.outcome⟩, rfl, .rests rfl⟩
  | @calls _ c' own hw hm hc =>
    cases h.work.symm.trans hw
    -- the token may have been cancelled since the last move, which is a move of its own
    obtain ⟨ms, ran⟩ := h.course
    obtain ⟨ms, ran⟩ := Call.run_seeing ran h.cancelled
    have ho := fresh.orderly ran
    have ran' : start.run (ms ++ [own]) = some c' := by
      simp only [Call.run_append, ran, Call.run, hc, Option.bind_some]
    refine ⟨_, c', ⟨hj', rfl, ⟨_, ran'⟩, ?_, ?_⟩, rfl, .moves own hm hc⟩
    · intro hx
      rw [Call.cancelled_of_step ho hm hc] at hx
      exact on.tokens _ hx
    · intro outcome hout
      exact Call.outcome_stays ho hc (h.outcome outcome hout)
  | handles hw => cases h.work.symm.trans hw
  | finishes _ ho =>
    -- the call rests, and its outcome is the one that is returned
    refine ⟨_, c, ⟨hj', h.work, h.course, seen, ?_⟩, rfl, .rests rfl⟩
    rintro outcome ⟨⟩
    rwa [h.work] at ho

/-- Whatever move a call can make, seeing its token as it is, the engine can make. -/
theorem Follows.makes {own : Move} (fresh : start.IsFresh) (h : Follows start w i j c)
    (hc : ({ c with cancelled := w.tokens.isCancelled j.token } : Call).step own = some c')
    (hm : own ≠ .cancel) :
    ∃ w' j', w.step (.work i (.call own)) = some w' ∧ Follows start w' i j' c' := by
  have made : w.step (.work i (.call own)) = w.stepCall i j c own := by
    simp only [Workload.step, h.job, h.work, Option.bind_eq_bind, Option.bind_some]
    cases own with
    | cancel => exact absurd rfl hm
    | _ => rfl
  obtain ⟨w', hs⟩ : ∃ w', w.stepCall i j c own = some w' := by
    simp only [stepCall, hc, Option.bind_eq_bind, Option.bind_some]
    exact ⟨_, rfl⟩
  obtain ⟨j', c₁, h', _⟩ := h.step fresh (made.trans hs)
  refine ⟨w', j', made.trans hs, ?_⟩
  have same : c₁ = c' := by
    obtain ⟨c₂, hc₂, work, _⟩ := stepCall_cases hs
    cases hc.symm.trans hc₂
    have hj := h'.job
    rw [work.jobs, List.getElem?_set_self (List.getElem?_eq_some_iff.mp h.job).1] at hj
    cases hj
    exact (Work.process.inj h'.work).symm
  exact same ▸ h'

/-- What every turn of a call keeps holds after any moves. -/
theorem Follows.keeps {P : Workload → Job → Call → Prop} (fresh : start.IsFresh)
    (keep : ∀ {w w' j j' c c' m}, w.step m = some w' → j'.token = j.token →
      CallTurn w j.token c c' → P w j c → P w' j' c')
    (h : Follows start w i j c) (hp : P w j c) (ran : w.run moves = some w') :
    ∃ j' c', Follows start w' i j' c' ∧ P w' j' c' := by
  induction moves generalizing w j c with
  | nil =>
    cases ran
    exact ⟨j, c, h, hp⟩
  | cons m rest ih =>
    obtain ⟨v, hs, ran⟩ := Option.bind_eq_some_iff.mp ran
    obtain ⟨j₁, c₁, h₁, ht, turn⟩ := h.step fresh hs
    exact ih h₁ (keep hs ht turn hp) ran

theorem Follows.run (fresh : start.IsFresh) (h : Follows start w i j c)
    (ran : w.run moves = some w') : ∃ j' c', Follows start w' i j' c' := by
  obtain ⟨j', c', h', _⟩ :=
    h.keeps (P := fun _ _ _ => True) fresh (fun _ _ _ _ => trivial) trivial ran
  exact ⟨j', c', h'⟩

/-! ## From when a request is taken on -/

/-- The call that is made for a request which is handed to a process. -/
def callOf (r : Request) (runner : Runner) (launch : Launch) : Call :=
  Call.ofRequest r launch runner.context.captureLimit

theorem isFresh_callOf : (callOf r runner launch).IsFresh := ⟨_, _, _, _, rfl⟩

theorem follows_of_arrive (token : Nat)
    (hb : entry.backend w.engine r = .process runner launch) :
    ∃ j, Follows (callOf r runner launch) (w.arrive entry r token) w.jobs.length j
        (callOf r runner launch) ∧
      (w.tokens.isCancelled token → (w.arrive entry r token).tokens.isCancelled j.token) := by
  obtain ⟨j, taken⟩ := takenOn_arrive w entry r token
  refine ⟨j, ⟨?_, ?_, ⟨[], rfl⟩, nofun, ?_⟩, taken.token⟩
  · rw [taken.jobs, List.getElem?_concat_length]
  · rw [taken.work, hb]
    rfl
  · rw [taken.unreturned]
    intro _ h
    cases h

/-- The call of a request, at any time after it was taken on. -/
theorem follows_of_run (hb : entry.backend w.engine r = .process runner launch)
    (ran : (w.arrive entry r token).run moves = some w') :
    ∃ j c, Follows (callOf r runner launch) w' w.jobs.length j c := by
  obtain ⟨j, h, _⟩ := follows_of_arrive token hb
  exact h.run isFresh_callOf ran

end Workload

end GitSteward
