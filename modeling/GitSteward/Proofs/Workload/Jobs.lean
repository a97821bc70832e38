-- What the moves of an engine at work do to the requests that it has taken on. A move works on one
-- request at most and leaves all others as they are. The engine itself never changes, and no
-- token that was cancelled is ever not.
import GitSteward.Proofs.Token
import GitSteward.Proofs.Workload.Steps

namespace GitSteward

/-- Whether a move is one of the work on a request. -/
def WorkloadMove.concerns (i : Nat) : WorkloadMove → Bool
  | .work k _ | .finish k => k = i
  | .arrive .. | .newToken | .childToken _ | .deadlineToken .. | .cancel _ | .advance _ => false

namespace Workload

variable {w w' v : Workload} {i : Nat} {j j' : Job} {c : Call} {m : WorkloadMove}
variable {entry : Entry} {r : Request} {token : Nat}

/-! ## Taking a request on -/

/-- A request has been taken on as a job. -/
structure TakenOn (w : Workload) (entry : Entry) (r : Request) (token : Nat) (w' : Workload)
    (j : Job) : Prop where
  jobs : w'.jobs = w.jobs ++ [j]
  engine : w'.engine = w.engine
  faults : w'.faults = w.faults
  tokens : w.tokens.Grows w'.tokens
  work : j.work = workOf r (entry.backend w.engine r)
  unreturned : j.outcome = none
  /-- the work looks at a token that is cancelled if that of the caller is -/
  token : w.tokens.isCancelled token → w'.tokens.isCancelled j.token

theorem takenOn_handle {s : Service} (hb : entry.backend w.engine r = w.engine.backend s r) :
    ∃ j, TakenOn w entry r token (w.handle s r token) j := by
  rw [handle_eq]
  refine ⟨w.dispatchedJob s r token, ⟨rfl, rfl, rfl, ?_, by rw [hb]; rfl, rfl, ?_⟩⟩
  · cases w.engine.timeout with
    | none => exact .refl _
    | some after => exact Tokens.grows_deadline _ _ _
  · rw [dispatchedJob]
    cases w.engine.timeout with
    | none => exact id
    | some after => exact fun h => Tokens.deadline_cancelled h after

theorem takenOn_reject {name : String}
    (hb : entry.backend w.engine r = .refused (.unsupported name)) :
    ∃ j, TakenOn w entry r token (w.reject name token) j := by
  rw [reject_eq]
  exact ⟨w.rejectedJob name token, ⟨rfl, rfl, rfl, .refl _, by rw [hb]; rfl, rfl, id⟩⟩

theorem takenOn_arrive (w : Workload) (entry : Entry) (r : Request) (token : Nat) :
    ∃ j, TakenOn w entry r token (w.arrive entry r token) j := by
  cases entry with
  | serve name =>
    cases hn : Service.ofWireName? name with
    | some s =>
      have taken : ∃ j, TakenOn w (.serve name) r token (w.handle s r token) j :=
        takenOn_handle (backend_serve hn)
      simpa only [arrive, hn] using taken
    | none =>
      have taken : ∃ j, TakenOn w (.serve name) r token (w.reject name token) j :=
        takenOn_reject (backend_unknown hn)
      simpa only [arrive, hn] using taken
  | handle s => exact takenOn_handle rfl
  | runGit s => exact ⟨_, rfl, rfl, rfl, .refl _, rfl, rfl, id⟩

/-! ## Working on a request -/

/-- Everything that a move can do to a request that has been taken on. -/
inductive JobTurn (w : Workload) (i : Nat) (j : Job) : WorkloadMove → Job → Prop
  | rests {m : WorkloadMove} : m.concerns i = false → JobTurn w i j m j
  | calls {c c' : Call} {m : Move} : j.work = .process c → m ≠ .cancel →
      ({ c with cancelled := w.tokens.isCancelled j.token } : Call).step m = some c' →
      JobTurn w i j (.work i (.call m)) { j with work := .process c' }
  | handles {r r' : HandlerRun} {e : HandlerEvent} : j.work = .handler r →
      ({ r with cancelled := w.tokens.isCancelled j.token } : HandlerRun).step e = some r' →
      JobTurn w i j (.work i (.handler e)) { j with work := .handler r' }
  | finishes {outcome : Outcome} : j.outcome = none → j.work.outcome? = some outcome →
      JobTurn w i j (.finish i) { j with outcome := some outcome }

/-- What a move leaves as it is, and what it does to each request. -/
structure GoesOn (w : Workload) (m : WorkloadMove) (w' : Workload) : Prop where
  engine : w'.engine = w.engine
  tokens : w.tokens.Grows w'.tokens
  turns : ∀ (i : Nat) (j : Job), w.jobs[i]? = some j →
    ∃ j', w'.jobs[i]? = some j' ∧ JobTurn w i j m j'

/-- One request is replaced, and the others rest. -/
theorem goesOn_set (hj : w.jobs[i]? = some j) (he : w'.engine = w.engine)
    (ht : w.tokens.Grows w'.tokens) (hjobs : w'.jobs = w.jobs.set i j')
    (turn : JobTurn w i j m j') (others : ∀ k, i ≠ k → m.concerns k = false) : GoesOn w m w' := by
  refine ⟨he, ht, fun k jk hk => ?_⟩
  by_cases hik : i = k
  · subst hik
    cases hj.symm.trans hk
    obtain ⟨hlt, _⟩ := List.getElem?_eq_some_iff.mp hj
    exact ⟨j', by rw [hjobs, List.getElem?_set_self hlt], turn⟩
  · exact ⟨jk, by rw [hjobs, List.getElem?_set_ne hik, hk], .rests (others k hik)⟩

/-- No request is worked on. -/
theorem goesOn_aside (he : w'.engine = w.engine) (ht : w.tokens.Grows w'.tokens)
    (hjobs : ∀ (i : Nat) (j : Job), w.jobs[i]? = some j → w'.jobs[i]? = some j)
    (hm : ∀ i, m.concerns i = false) : GoesOn w m w' :=
  ⟨he, ht, fun i j hj => ⟨j, hjobs i j hj, .rests (hm i)⟩⟩

/-- Tokens only grow when a request is returned. -/
theorem grows_released (w : Workload) (j : Job) : w.tokens.Grows (w.released j) := by
  unfold released
  cases j.ownToken with
  | none => exact .refl _
  | some own => exact Tokens.grows_cancel _ _

theorem goesOn_arrive (w : Workload) (entry : Entry) (r : Request) (token : Nat) :
    GoesOn w (.arrive entry r token) (w.arrive entry r token) := by
  obtain ⟨j, taken⟩ := takenOn_arrive w entry r token
  refine goesOn_aside taken.engine taken.tokens (fun i j hj => ?_) fun _ => rfl
  rw [taken.jobs, List.getElem?_append_left (List.getElem?_eq_some_iff.mp hj).1, hj]

theorem goesOn_of_step (h : w.step m = some w') : GoesOn w m w' := by
  cases turn_of_step h with
  | dispatches | rejects | runsGit =>
    rw [← Option.some.inj h]
    exact goesOn_arrive w _ _ _
  | @works i jm j work _ hj made aside _ =>
    refine goesOn_set hj aside.engine (by rw [aside.tokens]; exact .refl _) aside.jobs ?_
      fun k hik => by simpa [WorkloadMove.concerns] using hik
    cases made with
    | calls hw hm hc => exact .calls hw hm hc
    | handles hw hr => exact .handles hw hr
  | @finishes i j outcome hj hn ho =>
    have same := sameWork_returning w i j outcome
    refine goesOn_set hj same.engine ?_ same.jobs (.finishes hn ho)
      fun k hik => by simpa [WorkloadMove.concerns] using hik
    rw [same.tokens]
    exact grows_released w j
  | @tokens m s hs =>
    refine goesOn_aside rfl (Tokens.grows_apply _ s) (fun _ _ hj => hj) fun i => ?_
    cases m <;> first | rfl | cases hs

theorem engine_of_run {moves : List WorkloadMove} (ran : w.run moves = some w') :
    w'.engine = w.engine :=
  run_induct (P := fun _ v => v.engine = w.engine) rfl
    (fun _ h hs => (goesOn_of_step hs).engine.trans h) ran

end Workload

end GitSteward
