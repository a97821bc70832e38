-- An engine at work on any number of requests at once. They share its tokens, its metrics, its
-- log and its sink of faults; each has a process or a handler of its own. Steps of different
-- requests may come in any order.
import GitSteward.Call
import GitSteward.Engine
import GitSteward.Log
import GitSteward.Metrics
import GitSteward.Token

namespace GitSteward

/-- How a request comes in. -/
inductive Entry where
  /-- for a service that a client names -/
  | serve (name : String)
  /-- for a service that is known -/
  | handle (service : Service)
  /-- straight to git, past deadline, log and metrics -/
  | runGit (service : Service)
deriving Repr, DecidableEq, Inhabited

/-- What a request has been handed to. -/
inductive Work where
  | process (call : Call)
  | handler (run : HandlerRun)
  | refused (fault : Fault)
deriving Inhabited

/-- The outcome of the work, once there is one. -/
def Work.outcome? : Work → Option Outcome
  | .process call => call.outcome?
  | .handler run => match run.phase with
    | .ended outcome => some outcome
    | _ => none
  | .refused fault => some (.error fault)

/-- A request that an engine has taken on. -/
structure Job where
  /-- the service, unless the client named none that there is -/
  service : Option Service
  /-- whether it is logged and counted when it ends -/
  watched : Bool
  /-- the token that work on it looks at -/
  token : Nat
  /-- the token that was made for it alone -/
  ownToken : Option Nat := none
  startedAt : Nat
  work : Work
  /-- the outcome that was returned to the caller -/
  outcome : Option Outcome := none
deriving Inhabited

structure Workload where
  engine : Engine
  tokens : Tokens := {}
  jobs : List Job := []
  metrics : Metrics := {}
  log : List LogEvent := []
  /-- the faults kept for the caller -/
  faults : List Fault := []
  /-- what handlers noted of the calls to them -/
  handlerCalls : List String := []
deriving Inhabited

/-- A move of the work on one request. -/
inductive JobMove where
  | call (move : Move)
  | handler (event : HandlerEvent)
deriving Repr, Inhabited

/-- A move of an engine at work. -/
inductive WorkloadMove where
  | arrive (entry : Entry) (request : Request) (token : Nat)
  | work (job : Nat) (move : JobMove)
  /-- the outcome of a request is returned to its caller -/
  | finish (job : Nat)
  /-- a caller makes a token, from nothing or from one that there is -/
  | newToken
  | childToken (parent : Nat)
  | deadlineToken (parent after : Nat)
  | cancel (token : Nat)
  | advance (span : Nat)
deriving Inhabited

namespace Workload

def write (w : Workload) (e : LogEvent) : Workload := { w with log := w.log ++ [e] }

/-- The part of the program that logs what the engine does. -/
def engineOrigin : String := "forgeserve::engine"

/-- The part of the program that logs what happens to processes. -/
def processOrigin : String := "forgeserve::git::invoker"

/-- What the log knows the run of a process as. -/
def processSpan (j : Job) (c : Call) : LogSpan where
  level := .info
  origin := processOrigin
  name := "supervise"
  fields := [("service", (j.service.map (·.wireName)).getD ""), ("dir", c.launch.dir)]

/-- Reports a fault of a stream. -/
def report (span : LogSpan) (w : Workload) (f : Fault) : Workload :=
  match w.engine.git.context.faults with
  | .logged => w.write (f.event (some span))
  | .recorded _ => { w with faults := w.faults ++ [f] }

/-- Changes the metrics, if there are any. -/
def measure (w : Workload) (change : Metrics → Metrics) : Workload :=
  if w.engine.metrics then { w with metrics := change w.metrics } else w

def addJob (w : Workload) (j : Job) : Workload := { w with jobs := w.jobs ++ [j] }

/-- The work on a request that is handed to a backend. -/
def workOf (r : Request) : Engine.Backend → Work
  | .process runner launch => .process (Call.ofRequest r launch runner.context.captureLimit)
  | .handler h => .handler (HandlerRun.ofRequest h r)
  | .refused f => .refused f

/-- Takes on a request for a known service. With a deadline the work looks at a token of its
own, derived from that of the caller. -/
def handle (w : Workload) (s : Service) (r : Request) (token : Nat) : Workload :=
  let w := w.write
    { level := .debug, origin := engineOrigin, message := "dispatching service"
      fields := [("service", s.wireName), ("dir", r.dir)] }
  let (tokens, ownToken) := match w.engine.timeout with
    | none => (w.tokens, none)
    | some after =>
      let (tokens, ownToken) := w.tokens.deadline token after
      (tokens, some ownToken)
  ({ w with tokens } : Workload).addJob {
    service := some s
    watched := true
    token := ownToken.getD token
    ownToken := ownToken
    startedAt := tokens.clock
    work := workOf r (w.engine.backend s r) }

/-- Turns a request away whose service is not known. -/
def reject (w : Workload) (name : String) (token : Nat) : Workload :=
  let fault := Fault.unsupported name
  let w := w.write
    { level := .warn, origin := engineOrigin, message := "unsupported service requested"
      fields := [("service", name)] }
  (w.measure (·.observeRejected fault)).addJob {
    service := none
    watched := false
    token := token
    startedAt := w.tokens.clock
    work := .refused fault }

/-- Runs git for a request. -/
def runGit (w : Workload) (s : Service) (r : Request) (token : Nat) : Workload :=
  w.addJob {
    service := some s
    watched := false
    token := token
    startedAt := w.tokens.clock
    work := workOf r (w.engine.gitBackend s r) }

/-- Runs an external program for a request, past deadline, log and metrics as git can be run. -/
def runProgram (w : Workload) (t : Service) (runner : Runner) (r : Request) (token : Nat) :
    Workload :=
  w.addJob {
    service := some t
    watched := false
    token := token
    startedAt := w.tokens.clock
    work := workOf r (Engine.lfsBackend t (.program runner) r) }

/-- Takes on a request. -/
def arrive (w : Workload) (entry : Entry) (r : Request) (token : Nat) : Workload :=
  match entry with
  | .serve name =>
    match Service.ofWireName? name with
    | some s => w.handle s r token
    | none => w.reject name token
  | .handle s => w.handle s r token
  | .runGit s => w.runGit s r token

/-- The event that tells how a request ended. -/
def endEvent (s : Service) : Outcome → LogEvent
  | .ok () =>
    { level := .info, origin := engineOrigin, message := "service completed"
      fields := [("service", s.wireName)], measured := ["elapsed_ms"] }
  | .error f =>
    { level := .warn, origin := engineOrigin, message := "service failed"
      fields := [("service", s.wireName), ("outcome", f.label), ("error", f.message)]
      measured := ["elapsed_ms"] }

/-- Logs and counts the end of a request. -/
def observe (w : Workload) (j : Job) (outcome : Outcome) : Workload :=
  match j.watched, j.service with
  | true, some s =>
    (w.write (endEvent s outcome)).measure
      (·.observe s.wireName outcome (w.tokens.clock - j.startedAt))
  | _, _ => w

/-- Returns the outcome of a request: its own token is cancelled, so that its timer ends, and then
it is logged, counted and measured. All of that is one move, since the task that does it waits for
nothing between the cancellation and the return. -/
def finish (w : Workload) (i : Nat) : Option Workload := do
  let j ← w.jobs[i]?
  if j.outcome.isSome then none
  else
    let outcome ← j.work.outcome?
    let tokens := match j.ownToken with
      | some ownToken => w.tokens.cancel ownToken
      | none => w.tokens
    return ({ w with
      tokens := tokens
      jobs := w.jobs.set i { j with outcome := some outcome } } : Workload).observe j outcome

/-- A move of a process, which sees whether its token is cancelled. New faults are reported,
and killing is logged. -/
def stepCall (w : Workload) (i : Nat) (j : Job) (c : Call) (m : Move) : Option Workload := do
  let c := { c with cancelled := w.tokens.isCancelled j.token }
  let after ← c.step m
  let w := { w with jobs := w.jobs.set i { j with work := .process after } }
  let span := processSpan j c
  let w := (after.faults.drop c.faults.length).foldl (report span) w
  return if after.isKilling && !c.isKilling then
    w.write
      { level := .warn, origin := processOrigin
        message := "invocation cancelled; killing process", span := some span }
  else w

/-- A move of a handler, which notes the call to it when it starts. -/
def stepHandler (w : Workload) (i : Nat) (j : Job) (r : HandlerRun) (e : HandlerEvent) :
    Option Workload := do
  let r := { r with cancelled := w.tokens.isCancelled j.token }
  let after ← r.step e
  let w := { w with jobs := w.jobs.set i { j with work := .handler after } }
  return if e = .start then { w with handlerCalls := w.handlerCalls ++ [r.callLine] } else w

/-- The work after a move, if the move may be made. -/
def step (w : Workload) : WorkloadMove → Option Workload
  | .arrive entry r token => some (w.arrive entry r token)
  | .work i move => do
    let j ← w.jobs[i]?
    match j.work, move with
    | .process c, .call m => if m matches .cancel then none else w.stepCall i j c m
    | .handler r, .handler e => w.stepHandler i j r e
    | _, _ => none
  | .finish i => w.finish i
  | .newToken => some { w with tokens := w.tokens.fresh.1 }
  | .childToken parent => some { w with tokens := (w.tokens.child parent).1 }
  | .deadlineToken parent after => some { w with tokens := (w.tokens.deadline parent after).1 }
  | .cancel token => some { w with tokens := w.tokens.cancel token }
  | .advance span => some { w with tokens := w.tokens.advance span }

/-- The work after moves made one after the other. -/
def run (w : Workload) : List WorkloadMove → Option Workload
  | [] => some w
  | m :: rest => (w.step m).bind fun w => w.run rest

end Workload

end GitSteward
