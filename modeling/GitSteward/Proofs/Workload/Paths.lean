-- The two ways to a process agree. Git that is run for a service, and an external program that is
-- given the arguments of git, are the same work on the same request. Whatever moves an engine makes
-- with the one it can make with the other, and all that ever tells them apart is the service that
-- the log knows the process by.
import GitSteward.Proofs.CommandLine
import GitSteward.Proofs.Workload.Routes
import Mathlib.Data.List.Forall2

namespace GitSteward

variable {s t : Service} {i k : Nat} {j j' : Job} {w w' : Workload}

/-! ## One service in the place of another one -/

/-- A job that is known as one for another service. -/
def Job.knownAs (t : Service) (j : Job) : Job := { j with service := some t }

/-- Lines of the log that differ at most in the service of the process that they tell of. -/
inductive LogEvent.Alike (s t : Service) : LogEvent → LogEvent → Prop
  | same (e : LogEvent) : Alike s t e e
  | renamed (e : LogEvent) (j : Job) (c : Call) : j.service = some s →
      Alike s t { e with span := some (Workload.processSpan j c) }
        { e with span := some (Workload.processSpan (j.knownAs t) c) }

theorem rel_bind {α β γ δ : Type} {R : α → β → Prop} {S : γ → δ → Prop} {x : Option α}
    {y : Option β} {f : α → Option γ} {g : β → Option δ} (h : Option.Rel R x y)
    (hfg : ∀ a b, R a b → Option.Rel S (f a) (g b)) : Option.Rel S (x.bind f) (y.bind g) := by
  cases h with
  | some h => exact hfg _ _ h
  | none => exact .none

/-- Two jobs at the same place. The one at the place `i` is known as one for another service. -/
inductive JobsAlike (s t : Service) (i k : Nat) : Job → Job → Prop
  | other (j : Job) : k ≠ i → JobsAlike s t i k j j
  | renamed (j : Job) : k = i → j.service = some s → j.watched = false →
      JobsAlike s t i k j (j.knownAs t)

namespace JobsAlike

theorem work (pair : JobsAlike s t i k j j') : j'.work = j.work := by cases pair <;> rfl

theorem token (pair : JobsAlike s t i k j j') : j'.token = j.token := by cases pair <;> rfl

theorem ownToken (pair : JobsAlike s t i k j j') : j'.ownToken = j.ownToken := by
  cases pair <;> rfl

theorem outcome (pair : JobsAlike s t i k j j') : j'.outcome = j.outcome := by
  cases pair <;> rfl

theorem setWork (pair : JobsAlike s t i k j j') (work : Work) :
    JobsAlike s t i k { j with work } { j' with work } := by
  cases pair with
  | other hk => exact .other _ hk
  | renamed hk hs unwatched => exact .renamed { j with work } hk hs unwatched

theorem setOutcome (pair : JobsAlike s t i k j j') (outcome : Outcome) :
    JobsAlike s t i k { j with outcome := some outcome } { j' with outcome := some outcome } := by
  cases pair with
  | other hk => exact .other _ hk
  | renamed hk hs unwatched =>
    exact .renamed { j with outcome := some outcome } hk hs unwatched

end JobsAlike

namespace Workload

/-- Two engines at work that differ in nothing but the service that one job is known by. -/
structure Alike (s t : Service) (i : Nat) (w w' : Workload) : Prop where
  job : ∃ j, w.jobs[i]? = some j ∧ j.service = some s ∧ j.watched = false ∧
    w'.jobs = w.jobs.set i (j.knownAs t)
  log : List.Forall₂ (LogEvent.Alike s t) w.log w'.log
  rest : ∃ jobs log, w' = { w with jobs, log }

theorem alike_log_refl (log : List LogEvent) : List.Forall₂ (LogEvent.Alike s t) log log :=
  List.forall₂_same.mpr fun e _ => .same e

/-! ## Parts of moves -/

/-- Equal lines are added to both. -/
theorem Alike.write (h : Alike s t i w w') (events : List LogEvent) :
    Alike s t i { w with log := w.log ++ events } { w' with log := w'.log ++ events } := by
  obtain ⟨jobs, log, rfl⟩ := h.rest
  exact ⟨h.job, List.rel_append h.log (alike_log_refl events), _, _, rfl⟩

theorem Alike.setTokens (h : Alike s t i w w') {tokens tokens' : Tokens}
    (same : tokens' = tokens) :
    Alike s t i { w with tokens } { w' with tokens := tokens' } := by
  subst same
  obtain ⟨jobs, log, rfl⟩ := h.rest
  exact ⟨h.job, h.log, _, _, rfl⟩

theorem Alike.setMetrics (h : Alike s t i w w') (metrics : Metrics) :
    Alike s t i { w with metrics } { w' with metrics } := by
  obtain ⟨jobs, log, rfl⟩ := h.rest
  exact ⟨h.job, h.log, _, _, rfl⟩

theorem Alike.addJob (h : Alike s t i w w') (j : Job) : Alike s t i (w.addJob j) (w'.addJob j) := by
  obtain ⟨j₀, hj, hs, hw, jobs⟩ := h.job
  have inside := (List.getElem?_eq_some_iff.mp hj).1
  obtain ⟨_, _, rfl⟩ := h.rest
  refine ⟨⟨j₀, ?_, hs, hw, ?_⟩, h.log, _, _, rfl⟩
  · exact (List.getElem?_append_left inside).trans hj
  · exact (congrArg (· ++ [j]) jobs).trans (List.set_append_left _ _ inside).symm

/-- What is found at any place. -/
theorem Alike.jobs (h : Alike s t i w w') (k : Nat) :
    Option.Rel (JobsAlike s t i k) w.jobs[k]? w'.jobs[k]? := by
  obtain ⟨j, hj, hs, hw, jobs⟩ := h.job
  by_cases hk : k = i
  · subst hk
    rw [jobs, List.getElem?_set_self (List.getElem?_eq_some_iff.mp hj).1, hj]
    exact .some (.renamed j rfl hs hw)
  · rw [jobs, List.getElem?_set_ne (Ne.symm hk)]
    cases w.jobs[k]? with
    | none => exact .none
    | some j => exact .some (.other j hk)

theorem Alike.found (h : Alike s t i w w') (hj : w.jobs[k]? = some j) :
    ∃ j', w'.jobs[k]? = some j' ∧ JobsAlike s t i k j j' := by
  have pair := h.jobs k
  rw [hj] at pair
  cases hj' : w'.jobs[k]? with
  | none =>
    rw [hj'] at pair
    cases pair
  | some j' =>
    rw [hj', Option.rel_some_some] at pair
    exact ⟨j', rfl, pair⟩

theorem Alike.setJob (h : Alike s t i w w') (pair : JobsAlike s t i k j j') :
    Alike s t i { w with jobs := w.jobs.set k j } { w' with jobs := w'.jobs.set k j' } := by
  obtain ⟨j₀, hj, hs, hw, jobs⟩ := h.job
  have inside := (List.getElem?_eq_some_iff.mp hj).1
  obtain ⟨_, _, rfl⟩ := h.rest
  refine ⟨?_, h.log, _, _, rfl⟩
  cases pair with
  | other hk =>
    refine ⟨j₀, (List.getElem?_set_ne hk).trans hj, hs, hw, ?_⟩
    exact (congrArg (·.set k j) jobs).trans (List.set_comm _ _ (Ne.symm hk))
  | renamed hk hs' hw' =>
    subst hk
    refine ⟨j, List.getElem?_set_self inside, hs', hw', ?_⟩
    exact (congrArg (·.set k (j.knownAs t)) jobs).trans
      ((List.set_set _).trans (List.set_set _).symm)

/-! ## What moves tell -/

/-- Lines that tell of a process differ only in the service that the process is known by. -/
theorem alike_of_span (hs : j.service = some s) (c : Call) (f : LogSpan → LogEvent)
    (hf : ∀ span, f span = { f default with span := some span }) :
    LogEvent.Alike s t (f (processSpan j c)) (f (processSpan (j.knownAs t) c)) := by
  rw [hf, hf (processSpan (j.knownAs t) c)]
  exact .renamed (f default) j c hs

theorem alike_remarks (pair : JobsAlike s t i k j j') (sink : FaultSink) (before : Work)
    (m : JobMove) (after : Work) :
    List.Forall₂ (LogEvent.Alike s t) (Work.remarks sink j before m after).log
        (Work.remarks sink j' before m after).log ∧
      (Work.remarks sink j' before m after).faults = (Work.remarks sink j before m after).faults ∧
      (Work.remarks sink j' before m after).handlerCalls =
        (Work.remarks sink j before m after).handlerCalls := by
  cases pair with
  | other _ => exact ⟨alike_log_refl _, rfl, rfl⟩
  | renamed _ hs _ =>
    unfold Work.remarks
    split
    · rename_i c c'
      have killed : LogEvent.Alike s t (Work.killEvent (processSpan j c))
          (Work.killEvent (processSpan (j.knownAs t) c)) :=
        alike_of_span hs c Work.killEvent fun _ => rfl
      have told (f : Fault) : LogEvent.Alike s t (f.event (some (processSpan j c)))
          (f.event (some (processSpan (j.knownAs t) c))) :=
        alike_of_span hs c (fun span => f.event (some span)) fun _ => by cases f <;> rfl
      have last : List.Forall₂ (LogEvent.Alike s t)
          (if c'.isKilling && !c.isKilling then [Work.killEvent (processSpan j c)] else [])
          (if c'.isKilling && !c.isKilling then [Work.killEvent (processSpan (j.knownAs t) c)]
            else []) := by
        split
        · exact .cons killed .nil
        · exact .nil
      cases sink with
      | logged =>
        refine ⟨List.rel_append ?_ last, rfl, rfl⟩
        simp only [FaultSink.remarks, List.forall₂_map_left_iff, List.forall₂_map_right_iff]
        exact List.forall₂_same.mpr fun f _ => told f
      | recorded => exact ⟨List.rel_append .nil last, rfl, rfl⟩
    · exact ⟨alike_log_refl _, rfl, rfl⟩

theorem Alike.adding (h : Alike s t i w w') {n n' : Remarks}
    (log : List.Forall₂ (LogEvent.Alike s t) n.log n'.log) (faults : n'.faults = n.faults)
    (calls : n'.handlerCalls = n.handlerCalls) :
    Alike s t i (w.adding n) (w'.adding n') := by
  obtain ⟨jobs, lines, rfl⟩ := h.rest
  refine ⟨h.job, List.rel_append h.log log, jobs, lines ++ n'.log, ?_⟩
  unfold Workload.adding
  rw [faults, calls]

theorem Alike.measure (h : Alike s t i w w') (change : Metrics → Metrics) :
    Alike s t i (w.measure change) (w'.measure change) := by
  obtain ⟨_, _, rfl⟩ := h.rest
  unfold Workload.measure
  split
  · exact h.setMetrics _
  · exact h

theorem Alike.observe (h : Alike s t i w w') (pair : JobsAlike s t i k j j')
    (outcome : Outcome) : Alike s t i (w.observe j outcome) (w'.observe j' outcome) := by
  cases pair with
  | other _ =>
    obtain ⟨_, _, rfl⟩ := h.rest
    unfold Workload.observe
    split
    · exact (h.write _).measure _
    · exact h
  | renamed _ _ unwatched =>
    -- no end is told of a job that nobody watches
    have quiet (v : Workload) (j : Job) (hj : j.watched = false) : v.observe j outcome = v := by
      simp [Workload.observe, hj]
    rw [quiet w j unwatched, quiet w' (j.knownAs t) unwatched]
    exact h

/-! ## Moves -/

theorem Alike.arrive (h : Alike s t i w w') (entry : Entry) (r : Request) (token : Nat) :
    Alike s t i (w.arrive entry r token) (w'.arrive entry r token) := by
  obtain ⟨jobs, log, rfl⟩ := h.rest
  have handled (asked : Service) : Alike s t i (w.handle asked r token)
      (({ w with jobs, log } : Workload).handle asked r token) := by
    rw [handle_eq, handle_eq]
    exact ((h.write _).setTokens rfl).addJob _
  cases entry with
  | serve name =>
    simp only [Workload.arrive]
    split
    · exact handled _
    · rw [reject_eq, reject_eq]
      exact ((h.write _).setMetrics _).addJob _
  | handle asked => exact handled asked
  | runGit asked => exact h.addJob _

theorem Alike.work (h : Alike s t i w w') (k : Nat) (m : JobMove) :
    Option.Rel (Alike s t i) (w.step (.work k m)) (w'.step (.work k m)) := by
  rw [work_eq, work_eq]
  refine rel_bind (h.jobs k) fun j j' pair => ?_
  obtain ⟨_, _, rfl⟩ := h.rest
  have seen : j'.work.seeing (w.tokens.isCancelled j'.token) =
      j.work.seeing (w.tokens.isCancelled j.token) := by rw [pair.work, pair.token]
  dsimp only
  rw [seen]
  cases (j.work.seeing (w.tokens.isCancelled j.token)).step m with
  | none => exact .none
  | some work =>
    obtain ⟨log, faults, calls⟩ := alike_remarks pair w.engine.git.context.faults
      (j.work.seeing (w.tokens.isCancelled j.token)) m work
    exact .some ((h.setJob (pair.setWork work)).adding log faults calls)

theorem Alike.finish (h : Alike s t i w w') (k : Nat) :
    Option.Rel (Alike s t i) (w.finish k) (w'.finish k) := by
  rw [finish_eq, finish_eq]
  refine rel_bind (h.jobs k) fun j j' pair => ?_
  rw [pair.outcome, pair.work]
  split
  · exact .none
  · cases j.work.outcome? with
    | none => exact .none
    | some outcome =>
      obtain ⟨_, _, rfl⟩ := h.rest
      have same : w.released j' = w.released j := by rw [released, released, pair.ownToken]
      exact .some (((h.setJob (pair.setOutcome outcome)).setTokens same).observe pair outcome)

/-- Each move can be made with both or with neither. -/
theorem Alike.step (h : Alike s t i w w') (m : WorkloadMove) :
    Option.Rel (Alike s t i) (w.step m) (w'.step m) := by
  cases m with
  | arrive entry r token => exact .some (h.arrive entry r token)
  | work k m => exact h.work k m
  | finish k => exact h.finish k
  | newToken | childToken | deadlineToken | cancel | advance =>
    obtain ⟨_, _, rfl⟩ := h.rest
    exact .some (h.setTokens rfl)

theorem Alike.run (h : Alike s t i w w') (moves : List WorkloadMove) :
    Option.Rel (Alike s t i) (w.run moves) (w'.run moves) := by
  induction moves generalizing w w' with
  | nil => exact .some h
  | cons m rest ih => exact rel_bind (h.step m) fun _ _ made => ih made

/-! ## The two paths -/

theorem alike_start (hs : s.isProcessBacked) (w : Workload) (t : Service) (r : Request)
    (token : Nat) : Alike s t w.jobs.length (w.runGit s r token)
      (w.runProgram t w.engine.git (r.spelledOut s) token) := by
  have handed : w.engine.gitBackend s r = .process w.engine.git
      ((r.spelledOut s).launch w.engine.git.program w.engine.git.context.ambient) := by
    rw [Engine.gitBackend, if_pos hs, Request.gitLaunch_eq]
  unfold runGit
  rw [handed]
  refine ⟨⟨_, List.getElem?_concat_length, rfl, rfl, ?_⟩, alike_log_refl _, _, _, rfl⟩
  -- the job is the last one, and is made of the same parts
  refine ((List.set_append_right _ _ (Nat.le_refl _)).trans ?_).symm
  rw [Nat.sub_self]
  rfl

/-- How git and an external program that is given its arguments compare. -/
structure PathsAgree (w : Workload) (s t : Service) (r : Request) (token : Nat) : Prop where
  /-- the same program is presented with the same arguments, environment and directory -/
  presented : (r.spelledOut s).launch w.engine.git.program w.engine.git.context.ambient =
    r.gitLaunch w.engine.git.program w.engine.git.context.ambient s
  /-- whatever is done with the one, whatever happens meanwhile, can be done with the other -/
  schedules : ∀ moves, Option.Rel (Alike s t w.jobs.length) ((w.runGit s r token).run moves)
    ((w.runProgram t w.engine.git (r.spelledOut s) token).run moves)
  /-- and leads to the same process, with all that its hook was shown, that was copied and that was
  captured, to the same faults and to the same outcome -/
  same : ∀ moves v v', (w.runGit s r token).run moves = some v →
    (w.runProgram t w.engine.git (r.spelledOut s) token).run moves = some v' →
    v'.faults = v.faults ∧ v'.tokens = v.tokens ∧ v'.metrics = v.metrics ∧
      ∃ j j' c, v.jobs[w.jobs.length]? = some j ∧ v'.jobs[w.jobs.length]? = some j' ∧
        j.work = .process c ∧ j'.work = .process c ∧ j'.outcome = j.outcome ∧
        c.Begun r.hook (r.gitLaunch w.engine.git.program w.engine.git.context.ambient s)
  /-- for one and the same request, the ends of the arguments are all that differs -/
  affixes : ∀ program ambient, r.gitLaunch program ambient s = { r.launch program ambient with
    args := Launch.safetyFlags ++ s.shortName :: (r.launch program ambient).args ++ ["."] }

/-- Git that is run for a service, and an external program that is given the arguments of git, do
the same under every schedule. -/
theorem the_two_paths_agree (hs : s.isProcessBacked) (w : Workload) (t : Service) (r : Request)
    (token : Nat) : PathsAgree w s t r token where
  presented := (r.gitLaunch_eq _ _ s).symm
  schedules moves := (alike_start hs w t r token).run moves
  same moves v v' ran ran' := by
    have alike := (alike_start hs w t r token).run moves
    rw [ran, ran'] at alike
    have alike : Alike s t w.jobs.length v v' := Option.rel_some_some.mp alike
    have hb : (Entry.runGit s).backend w.engine r = .process w.engine.git
        (r.gitLaunch w.engine.git.program w.engine.git.context.ambient s) := if_pos hs
    have ran : (w.arrive (.runGit s) r token).run moves = some v := ran
    obtain ⟨j, c, follows⟩ := follows_of_run hb ran
    obtain ⟨j', hj', pair⟩ := alike.found follows.job
    obtain ⟨_, _, rfl⟩ := alike.rest
    exact ⟨rfl, rfl, rfl, j, j', c, follows.job, hj', follows.work, pair.work.trans follows.work,
      pair.outcome, begun_of_follows follows⟩
  affixes program ambient := r.gitLaunch_eq_affixes program ambient s

/-- A server that runs git in an environment of its own. -/
def tidyServer : Workload where
  engine := .ofSettings .empty [.gitProgram "/usr/bin/git", .extend [("LANG", "C")]]

/-- A request whose hook adds an argument after the end. -/
def lengtheningRequest : Request :=
  .build "/srv/a.git" [.arg "--strict", .hook (·.addArg "-v")]

/-- The hook adds to the same command on both paths. -/
theorem a_program_can_stand_in_for_git :
    ∃ v v' j j' c, (tidyServer.runGit .uploadPack lengtheningRequest 0).run
        [.work 0 (.call .enter), .work 0 (.call .spawn)] = some v ∧
      (tidyServer.runProgram .lfsTransfer tidyServer.engine.git
        (lengtheningRequest.spelledOut .uploadPack) 0).run
        [.work 0 (.call .enter), .work 0 (.call .spawn)] = some v' ∧
      v.jobs[0]? = some j ∧ v'.jobs[0]? = some j' ∧ j.work = .process c ∧ j'.work = .process c ∧
      c.launch.args = Launch.safetyFlags ++ ["upload-pack", "--strict", ".", "-v"] ∧
      c.hasStarted := by
  have ran : (tidyServer.runGit .uploadPack lengtheningRequest 0).run
      [.work 0 (.call .enter), .work 0 (.call .spawn)] = some _ := rfl
  have ran' : (tidyServer.runProgram .lfsTransfer tidyServer.engine.git
      (lengtheningRequest.spelledOut .uploadPack) 0).run
      [.work 0 (.call .enter), .work 0 (.call .spawn)] = some _ := rfl
  obtain ⟨_, _, _, j, j', c, hj, hj', hw, hw', _, _⟩ :=
    (the_two_paths_agree rfl tidyServer .lfsTransfer lengtheningRequest 0).same _ _ _ ran ran'
  cases hj
  cases hj'
  cases hw
  exact ⟨_, _, _, _, _, ran, ran', rfl, rfl, rfl, hw', by decide, rfl⟩

end Workload

end GitSteward
