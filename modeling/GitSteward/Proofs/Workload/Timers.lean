-- The timer of a request that has been returned. The token of the request is cancelled by then, so
-- whether its deadline still comes makes no difference to anything that an engine does.
import GitSteward.Proofs.Workload.Tokens

namespace GitSteward.Workload

open Tokens

variable {w w' : Workload} {k i : Nat} {m : WorkloadMove} {moves : List WorkloadMove} {j : Job}

/-- Takes its deadline from a token. -/
def disarm (w : Workload) (k : Nat) : Workload := { w with tokens := w.tokens.disarm k }

theorem report_disarm (span : LogSpan) (w : Workload) (k : Nat) (f : Fault) :
    report span (w.disarm k) f = (report span w f).disarm k := by
  unfold report
  simp only [disarm]
  split <;> rfl

theorem reports_disarm (span : LogSpan) (w : Workload) (k : Nat) (faults : List Fault) :
    faults.foldl (report span) (w.disarm k) = (faults.foldl (report span) w).disarm k := by
  induction faults generalizing w with
  | nil => rfl
  | cons f faults ih => rw [List.foldl_cons, List.foldl_cons, report_disarm, ih]

theorem measure_disarm (w : Workload) (k : Nat) (change : Metrics → Metrics) :
    (w.disarm k).measure change = (w.measure change).disarm k := by
  cases hm : w.engine.metrics <;> simp [measure, disarm, hm]

theorem observe_disarm (w : Workload) (k : Nat) (j : Job) (outcome : Outcome) :
    (w.disarm k).observe j outcome = (w.observe j outcome).disarm k := by
  unfold observe
  split
  · exact measure_disarm (w.write _) k _
  · rfl

theorem stepCall_disarm (w : Workload) (k i : Nat) (j : Job) (c : Call) (m : Move) :
    (w.disarm k).stepCall i j c m = (w.stepCall i j c m).map (·.disarm k) := by
  have seen : (w.disarm k).tokens.isCancelled j.token = w.tokens.isCancelled j.token :=
    isCancelled_disarm _ _ _
  simp only [stepCall, seen]
  cases ({ c with cancelled := w.tokens.isCancelled j.token } : Call).step m with
  | none => rfl
  | some after =>
    have told (span : LogSpan) := reports_disarm span
      { w with jobs := w.jobs.set i { j with work := .process after } } k
      (after.faults.drop c.faults.length)
    simp only [Option.bind_eq_bind, Option.bind_some, Option.pure_def, Option.map_some]
    split
    · exact congrArg (fun v => some (Workload.write v _)) (told _)
    · exact congrArg some (told _)

theorem stepHandler_disarm (w : Workload) (k i : Nat) (j : Job) (run : HandlerRun)
    (e : HandlerEvent) :
    (w.disarm k).stepHandler i j run e = (w.stepHandler i j run e).map (·.disarm k) := by
  have seen : (w.disarm k).tokens.isCancelled j.token = w.tokens.isCancelled j.token :=
    isCancelled_disarm _ _ _
  simp only [stepHandler, seen]
  cases ({ run with cancelled := w.tokens.isCancelled j.token } : HandlerRun).step e with
  | none => rfl
  | some after =>
    simp only [Option.bind_eq_bind, Option.bind_some, Option.pure_def, Option.map_some]
    split <;> rfl

theorem handle_disarm (h : w.tokens.Settled) (hk : w.tokens.isCancelled k) (s : Service)
    (r : Request) (token : Nat) :
    (w.disarm k).handle s r token = (w.handle s r token).disarm k := by
  have job : (w.disarm k).dispatchedJob s r token = w.dispatchedJob s r token := by
    simp [dispatchedJob, disarm, Tokens.disarm]
  rw [handle_eq, handle_eq, job]
  simp only [disarm]
  cases w.engine.timeout with
  | none => rfl
  | some after => simp only [Option.elim_some, apply_disarm h hk]

theorem arrive_disarm (h : w.tokens.Settled) (hk : w.tokens.isCancelled k) (entry : Entry)
    (r : Request) (token : Nat) :
    (w.disarm k).arrive entry r token = (w.arrive entry r token).disarm k := by
  cases entry with
  | serve name =>
    simp only [arrive]
    cases Service.ofWireName? name with
    | some s => exact handle_disarm h hk s r token
    | none =>
      simp only [reject_eq]
      rfl
  | handle s => exact handle_disarm h hk s r token
  | runGit s => rfl

theorem returning_disarm (h : w.tokens.Settled) (hk : w.tokens.isCancelled k) (i : Nat) (j : Job)
    (outcome : Outcome) :
    (w.disarm k).returning i j outcome = (w.returning i j outcome).disarm k := by
  have released : (w.disarm k).released j = (w.released j).disarm k := by
    unfold Workload.released
    cases j.ownToken with
    | none => rfl
    | some own => exact apply_disarm h hk (.cancel own)
  rw [returning, released]
  exact observe_disarm { w with
    tokens := w.released j, jobs := w.jobs.set i { j with outcome := some outcome } } k j outcome

theorem finish_disarm (h : w.tokens.Settled) (hk : w.tokens.isCancelled k) (i : Nat) :
    (w.disarm k).finish i = (w.finish i).map (·.disarm k) := by
  rw [finish_eq, finish_eq, disarm]
  cases w.jobs[i]? with
  | none => rfl
  | some j =>
    simp only [Option.bind_some]
    split
    · rfl
    · rw [Option.map_map]
      exact congrArg (fun f => j.work.outcome?.map f) (funext (returning_disarm h hk i j))

/-- Whether the deadline of a cancelled token still comes makes no difference to a move. -/
theorem step_disarm (h : w.tokens.Settled) (hk : w.tokens.isCancelled k) (m : WorkloadMove) :
    (w.disarm k).step m = (w.step m).map (·.disarm k) := by
  have tokens (s : TokenStep) : ({ w.disarm k with tokens := (w.disarm k).tokens.apply s } :
      Workload) = disarm { w with tokens := w.tokens.apply s } k :=
    congrArg (fun t => { w with tokens := t }) (apply_disarm h hk s)
  cases m with
  | arrive entry r token => exact congrArg some (arrive_disarm h hk entry r token)
  | work i jm =>
    have jobs : (w.disarm k).jobs = w.jobs := rfl
    simp only [step, jobs]
    cases w.jobs[i]? with
    | none => rfl
    | some j =>
      simp only [Option.bind_eq_bind, Option.bind_some]
      split
      · split
        · rfl
        · exact stepCall_disarm w k i j _ _
      · exact stepHandler_disarm w k i j _ _
      · rfl
  | finish i => exact finish_disarm h hk i
  | newToken => exact congrArg some (tokens .fresh)
  | childToken p => exact congrArg some (tokens (.child p))
  | deadlineToken p after => exact congrArg some (tokens (.deadline p after))
  | cancel a => exact congrArg some (tokens (.cancel a))
  | advance span => exact congrArg some (tokens (.advance span))

/-- Nor does it make a difference to all that follows. -/
theorem run_disarm (h : w.tokens.Settled) (hk : w.tokens.isCancelled k)
    (moves : List WorkloadMove) : (w.disarm k).run moves = (w.run moves).map (·.disarm k) := by
  induction moves generalizing w with
  | nil => rfl
  | cons m moves ih =>
    rw [run, run, step_disarm h hk]
    cases hs : w.step m with
    | none => rfl
    | some v =>
      exact ih (settled_of_step hs h) ((goesOn_of_step hs).tokens k hk)

end GitSteward.Workload
