-- What the moves of an engine at work add to what requests share, said once for each kind of
-- move. What is added depends on the request that the move concerns and on where faults go, and on
-- nothing that other requests have left behind.
import GitSteward.Proofs.Workload.Jobs

namespace GitSteward

/-- What is added to what requests share, the metrics aside. -/
structure Remarks where
  log : List LogEvent := []
  faults : List Fault := []
  handlerCalls : List String := []

/-- What faults of streams add, by where they are reported to. -/
def FaultSink.remarks (sink : FaultSink) (span : LogSpan) (faults : List Fault) : Remarks :=
  match sink with
  | .logged => { log := faults.map (·.event (some span)) }
  | .recorded _ => { faults }

namespace Work

/-- Work that sees whether its token is cancelled. -/
def seeing (cancelled : Bool) : Work → Work
  | .process c => .process { c with cancelled }
  | .handler run => .handler { run with cancelled }
  | .refused f => .refused f

/-- Work after a move of its own, if it may be made. -/
def step : Work → JobMove → Option Work
  | .process c, .call m => if m matches .cancel then none else (c.step m).map .process
  | .handler run, .handler e => (run.step e).map .handler
  | _, _ => none

/-- The handler call that is noted with a move. -/
def called : Work → JobMove → List String
  | .handler run, .handler .start => [run.callLine]
  | _, _ => []

/-- What tells that a process is killed. -/
def killEvent (span : LogSpan) : LogEvent where
  level := .warn
  origin := Workload.processOrigin
  message := "invocation cancelled; killing process"
  span := some span

/-- The faults that have been reported of work. -/
def faults : Work → List Fault
  | .process c => c.faults
  | _ => []

/-- What is told when work has gone on. -/
def remarks (sink : FaultSink) (j : Job) (before : Work) (m : JobMove) (after : Work) : Remarks :=
  match before, after with
  | .process c, .process c' =>
    let span := Workload.processSpan j c
    let told := sink.remarks span (c'.faults.drop c.faults.length)
    { told with
      log := told.log ++ if c'.isKilling && !c.isKilling then [killEvent span] else [] }
  | before, _ => { handlerCalls := before.called m }

end Work

namespace Workload

variable {w w' : Workload} {i : Nat} {j : Job}

/-- The state with something added to what requests share. -/
def adding (w : Workload) (n : Remarks) : Workload :=
  { w with
    log := w.log ++ n.log
    faults := w.faults ++ n.faults
    handlerCalls := w.handlerCalls ++ n.handlerCalls }

/-! ## Working on a request -/

theorem reports_eq (span : LogSpan) (w : Workload) (faults : List Fault) :
    faults.foldl (report span) w = w.adding (w.engine.git.context.faults.remarks span faults) := by
  induction faults generalizing w with
  | nil => cases hs : w.engine.git.context.faults <;> simp [adding, FaultSink.remarks]
  | cons f faults ih =>
    rw [List.foldl_cons, ih]
    cases hs : w.engine.git.context.faults with
    | logged => simp [report, hs, write, adding, FaultSink.remarks, List.append_assoc]
    | recorded n => simp [report, hs, adding, FaultSink.remarks, List.append_assoc]

/-- A move of a process goes on with it, and reports and tells what is new. -/
theorem stepCall_eq (w : Workload) (i : Nat) (j : Job) (c : Call) (m : Move) :
    w.stepCall i j c m =
      (({ c with cancelled := w.tokens.isCancelled j.token } : Call).step m).map fun c' =>
        ({ w with jobs := w.jobs.set i { j with work := .process c' } } : Workload).adding
          (Work.remarks w.engine.git.context.faults j
            (.process { c with cancelled := w.tokens.isCancelled j.token }) (.call m)
            (.process c')) := by
  change Option.bind (Call.step { c with cancelled := w.tokens.isCancelled j.token } m) _ = _
  generalize ({ c with cancelled := w.tokens.isCancelled j.token } : Call) = seen
  cases seen.step m with
  | none => rfl
  | some c' =>
    simp only [Option.bind_some, Option.map_some, reports_eq, Work.remarks]
    split <;> simp [adding, write, Work.killEvent, List.append_assoc]

/-- A move of a handler goes on with it, and the call to it is noted when it starts. -/
theorem stepHandler_eq (w : Workload) (i : Nat) (j : Job) (run : HandlerRun) (e : HandlerEvent) :
    w.stepHandler i j run e =
      (({ run with cancelled := w.tokens.isCancelled j.token } : HandlerRun).step e).map fun run' =>
        ({ w with jobs := w.jobs.set i { j with work := .handler run' } } : Workload).adding
          (Work.remarks w.engine.git.context.faults j
            (.handler { run with cancelled := w.tokens.isCancelled j.token }) (.handler e)
            (.handler run')) := by
  change Option.bind (HandlerRun.step { run with cancelled := w.tokens.isCancelled j.token } e) _ =
    _
  generalize ({ run with cancelled := w.tokens.isCancelled j.token } : HandlerRun) = seen
  cases seen.step e with
  | none => rfl
  | some run' => cases e <;> simp [Work.remarks, Work.called, adding]

/-- Work goes on by a move of its own, and what it adds is its own. -/
theorem work_eq (w : Workload) (i : Nat) (m : JobMove) :
    w.step (.work i m) = w.jobs[i]?.bind fun j =>
      ((j.work.seeing (w.tokens.isCancelled j.token)).step m).map fun work =>
        ({ w with jobs := w.jobs.set i { j with work } } : Workload).adding
          (Work.remarks w.engine.git.context.faults j
            (j.work.seeing (w.tokens.isCancelled j.token)) m work) := by
  rw [step]
  cases w.jobs[i]? with
  | none => rfl
  | some j =>
    simp only [Option.bind_eq_bind, Option.bind_some]
    cases hw : j.work with
    | process c =>
      cases m with
      | call own =>
        simp only [Work.seeing, Work.step]
        cases own with
        | cancel => rfl
        | _ =>
          simp only [stepCall_eq, Option.map_map, Bool.false_eq_true, if_false]
          rfl
      | handler e => rfl
    | handler run =>
      cases m with
      | call own => rfl
      | handler e =>
        simp only [Work.seeing, Work.step, stepHandler_eq, Option.map_map]
        rfl
    | refused f => rfl

/-! ## Returning a request -/

/-- What tells that a request has ended. -/
def endEvents (j : Job) (outcome : Outcome) : List LogEvent :=
  match j.watched, j.service with
  | true, some s => [endEvent s outcome]
  | _, _ => []

theorem observe_eq (w : Workload) (j : Job) (outcome : Outcome) : w.observe j outcome =
    { w with
      log := w.log ++ endEvents j outcome, metrics := (w.observe j outcome).metrics } := by
  unfold observe endEvents
  cases j.watched with
  | false => simp
  | true =>
    cases j.service with
    | none => simp
    | some s => cases hm : w.engine.metrics <;> simp [measure, write, hm]

/-- A request is returned with its own token, its own job and its own event, besides the metrics. -/
theorem returning_eq (w : Workload) (i : Nat) (j : Job) (outcome : Outcome) :
    w.returning i j outcome = { w with
      tokens := w.released j
      jobs := w.jobs.set i { j with outcome := some outcome }
      log := w.log ++ endEvents j outcome
      metrics := (w.returning i j outcome).metrics } :=
  observe_eq { w with
    tokens := w.released j, jobs := w.jobs.set i { j with outcome := some outcome } } j outcome

end Workload

end GitSteward
