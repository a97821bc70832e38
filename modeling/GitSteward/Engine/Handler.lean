-- Handlers that the caller of the engine supplies for large file services. Such a handler may
-- write something to the client, may wait until it is cancelled, and ends with an outcome of its
-- own.
import GitSteward.Request.Description
import GitSteward.Stream.Tape

namespace GitSteward

structure Handler where
  name : String
  /-- what it writes to the client first -/
  writes : Bytes := []
  /-- whether it then waits to be cancelled -/
  waits : Bool := false
  /-- how it ends if it does not wait -/
  outcome : Outcome := .ok ()
deriving Inhabited

/-- What a handler is doing. -/
inductive HandlerPhase where
  | called
  | writing (left : Bytes)
  | waiting
  | ended (outcome : Outcome)
deriving Repr, Inhabited

/-- A handler at work on a request. -/
structure HandlerRun where
  handler : Handler
  /-- the request as it came in -/
  request : Request
  /-- whether its token is cancelled -/
  cancelled : Bool := false
  phase : HandlerPhase := .called
  /-- what the sink has taken -/
  taken : Tape := .empty
deriving Inhabited

/-- What happens to a handler. -/
inductive HandlerEvent where
  | start
  | sink (reply : SinkReply)
  /-- it looks at its token -/
  | look
deriving Repr, DecidableEq, Inhabited

namespace HandlerRun

def ofRequest (h : Handler) (r : Request) : HandlerRun where
  handler := h
  request := r

/-- What a handler notes of a call to it. -/
def callLine (r : HandlerRun) : String :=
  r.handler.name ++ " " ++ r.request.summary.inlineText ++ " cancelled=" ++
  RequestSummary.flagText r.cancelled

/-- Goes on when all is written. -/
def afterWriting (r : HandlerRun) : HandlerRun :=
  { r with phase := if r.handler.waits then .waiting else .ended r.handler.outcome }

/-- Goes on with bytes that are left to write. -/
def write (r : HandlerRun) (left : Bytes) : HandlerRun :=
  if left.isEmpty then r.afterWriting else { r with phase := .writing left }

/-- Ends because the sink failed. -/
def loseSink (r : HandlerRun) (e : SystemError) : HandlerRun :=
  { r with phase := .ended (.error (.handler e.message [])) }

/-- The handler after an event, if the event may happen. -/
def step (r : HandlerRun) (event : HandlerEvent) : Option HandlerRun :=
  match r.phase, event with
  | .called, .start => some (r.write (if r.request.stdout.isSome then r.handler.writes else []))
  | .writing left, .sink (.takes n) =>
    if n = 0 then some (r.loseSink (.bare .writeZero))
    else if n ≤ left.length then
      some (({ r with taken := r.taken.append (left.take n) } : HandlerRun).write (left.drop n))
    else none
  | .writing _, .sink .notReady => some r
  | .writing _, .sink (.fails e) => some (r.loseSink e)
  | .waiting, .look =>
    if r.cancelled then some { r with phase := .ended (.error .cancelled) } else some r
  | _, _ => none

end HandlerRun

end GitSteward
