-- One supervised call: a process is started for a request, its streams are copied, its end is
-- awaited, and its outcome is told. Several tasks take part, and their steps may come in any
-- order: the process itself, one copier for each output, a feeder for the input, the token that
-- cancels the call, and the main task, which returns the outcome. Each step is a move, and
-- `Call.step` tells which moves may be made and what they do. Asking a task to stop only makes
-- it possible for the task to stop.
import GitSteward.Call.Feeder
import GitSteward.Call.Line
import GitSteward.Request

namespace GitSteward

/-- The process of a call. -/
inductive Child where
  | notStarted
  | running
  /-- it has ended and not been waited for -/
  | ended (status : WaitStatus)
  | reaped (status : WaitStatus)
deriving Repr, DecidableEq, Inhabited

/-- Where the main task of a call is. -/
inductive CallPhase where
  /-- the call was made -/
  | entering
  /-- the hook has run, and the process is to be started -/
  | starting
  /-- the copiers of the outputs are awaited -/
  | draining
  /-- the end of the process is awaited -/
  | waiting
  /-- the call was found cancelled, and the process is killed -/
  | killing
  | returned (outcome : Outcome)
deriving Repr, Inhabited

structure Call where
  /-- the process, as far as it has been put together -/
  launch : Launch
  hook : Option Hook
  /-- which streams the caller supplied -/
  hasStdin : Bool
  hasStdout : Bool
  hasStderr : Bool
  /-- how many of the last bytes of error output are kept -/
  captureLimit : Nat
  /-- the capacity of each pipe -/
  capacity : Nat := 65536
  phase : CallPhase := .entering
  /-- whether the token of the call is cancelled -/
  cancelled : Bool := false
  child : Child := .notStarted
  input : Pipe := {}
  output : Pipe := {}
  errors : Pipe := {}
  /-- the tasks that copy streams, from when the process is started -/
  feeder : Option Feeder := none
  outCopier : Option Copier := none
  errCopier : Option Copier := none
  /-- whether the copying tasks were asked to stop -/
  stopAsked : Bool := false
  /-- the faults reported so far -/
  faults : List Fault := []
  /-- the processes that the hook was shown -/
  shown : List Launch := []
deriving Inhabited

/-- A move of a call. -/
inductive Move where
  /-- the token is cancelled -/
  | cancel
  /-- the main task looks at the token, and the hook runs -/
  | enter
  | spawn
  | spawnFails (error : SystemError)
  /-- the main task looks at the token, the copiers and the process, in this order -/
  | poll
  | waitFails (error : SystemError)
  /-- the main task has waited for the process that it killed -/
  | reap
  | childWrites (stream : StreamName) (bytes : Bytes)
  /-- the last end of a pipe that the process or its descendants hold is closed -/
  | childCloses (stream : StreamName)
  | childReads (count : Nat)
  /-- the process sees the end of its input -/
  | childSeesEnd
  | childEnds (status : WaitStatus)
  /-- a copier reads so many bytes from its pipe -/
  | copierReads (stream : StreamName) (count : Nat)
  /-- anything else that happens to a copier -/
  | copier (stream : StreamName) (event : CopierEvent)
  | feeder (event : FeederEvent)
deriving Repr, Inhabited

namespace Call

/-- The call for a request and the process that it is to start. -/
def ofRequest (r : Request) (launch : Launch) (captureLimit : Nat) (capacity : Nat := 65536) :
    Call where
  launch := launch
  hook := r.hook
  hasStdin := r.stdin.isSome
  hasStdout := r.stdout.isSome
  hasStderr := r.stderr.isSome
  captureLimit := captureLimit
  capacity := capacity

/-- The outcome, once the call has returned. -/
def outcome? (c : Call) : Option Outcome :=
  match c.phase with
  | .returned outcome => some outcome
  | _ => none

/-- Whether the process was found in need of being killed. -/
def isKilling (c : Call) : Bool := c.phase matches .killing

/-- Whether the copiers of both outputs have come to their ends. -/
def copiersDone (c : Call) : Bool :=
  c.outCopier.all (·.isDone) && c.errCopier.all (·.isDone)

/-- The end of the error output that was kept. -/
def captured (c : Call) : Bytes := (c.errCopier.map (·.captured.bytes)).getD []

/-- Whether all tasks of the call are over. -/
def isQuiet (c : Call) : Bool :=
  c.outcome?.isSome && c.feeder.all (·.isOver) && c.outCopier.all (·.isOver) &&
  c.errCopier.all (·.isOver)

/-- Whether the caller supplied a stream. -/
def supplies (c : Call) : StreamName → Bool
  | .stdin => c.hasStdin
  | .stdout => c.hasStdout
  | .stderr => c.hasStderr

def pipeOf (c : Call) : StreamName → Pipe
  | .stdin => c.input
  | .stdout => c.output
  | .stderr => c.errors

def copierOf (c : Call) : StreamName → Option Copier
  | .stdin => none
  | .stdout => c.outCopier
  | .stderr => c.errCopier

/-- The line of an output that is copied. -/
def line? (c : Call) (stream : StreamName) : Option Line :=
  (c.copierOf stream).map fun copier => { pipe := c.pipeOf stream, copier }

def setLine (c : Call) (l : Line) : StreamName → Call
  | .stdin => c
  | .stdout => { c with output := l.pipe, outCopier := some l.copier }
  | .stderr => { c with errors := l.pipe, errCopier := some l.copier }

/-- Returns an outcome and asks the copying tasks to stop. -/
def finish (c : Call) (outcome : Outcome) : Call :=
  { c with phase := .returned outcome, stopAsked := true }

/-- Returns an outcome before any process was started. -/
def refuse (c : Call) (outcome : Outcome) : Call := { c with phase := .returned outcome }

/-- Looks at the token, then lets the hook see and change the process. -/
def enter (c : Call) : Call :=
  if c.cancelled then c.refuse (.error .cancelled)
  else
    match c.hook with
    | none => { c with phase := .starting }
    | some hook =>
      { c with phase := .starting, launch := hook c.launch, shown := c.shown ++ [c.launch] }

/-- How many of the last bytes of an output are kept. Only error output is. -/
def keeps (c : Call) : StreamName → Nat
  | .stderr => c.captureLimit
  | _ => 0

/-- The copier of an output, if the caller supplied a sink for it. -/
def newCopier (c : Call) (stream : StreamName) : Option Copier :=
  if c.supplies stream then some { stream, limit := c.keeps stream } else none

/-- Starts the process and the tasks that copy its streams. Behind each stream is a pipe if the
caller supplied one, and else the null device, whatever the hook said. -/
def spawn (c : Call) : Call :=
  let pipe : Pipe := { capacity := c.capacity }
  { c with
    launch := c.launch.withStreams c.hasStdin c.hasStdout c.hasStderr
    phase := .draining
    child := .running
    input := pipe, output := pipe, errors := pipe
    feeder := if c.hasStdin then some {} else none
    outCopier := c.newCopier .stdout
    errCopier := c.newCopier .stderr }

/-- Takes the outcome of a process that has ended. -/
def settle (c : Call) : Call :=
  match c.child with
  | .ended status =>
    ({ c with child := .reaped status } : Call).finish (Outcome.ofExit status c.captured)
  | _ => { c with phase := .waiting }

/-- Whether the main task, when it looks around, comes to look at the process: the token is not
cancelled, and the copiers are done. -/
def awaitsExit (c : Call) : Bool :=
  !c.cancelled && match c.phase with
    | .draining => c.copiersDone
    | .waiting => true
    | _ => false

/-- Looks at the token first. Only when that is not cancelled are the copiers looked at, and
only when both are done the process. -/
def poll (c : Call) : Option Call :=
  match c.phase with
  | .draining | .waiting =>
    some (if c.cancelled then { c with phase := .killing }
      else if c.awaitsExit then c.settle
      else c)
  | _ => none

/-- A move on the line of an output. -/
def along (c : Call) (stream : StreamName) (m : LineMove) : Option Call := do
  let line ← c.line? stream
  let (line, faults) ← line.step m
  return { c.setLine line stream with faults := c.faults ++ faults }

/-- Passes an event on to the feeder. -/
def stepFeeder (c : Call) (event : FeederEvent) : Option Call := do
  let feeder ← c.feeder
  let (feeder, faults) ← feeder.step event
  return { c with feeder := some feeder, faults := c.faults ++ faults }

/-- A move of the feeder. What it writes goes into the pipe, and when it is over its end of the
pipe is closed. -/
def feed (c : Call) (event : FeederEvent) : Option Call := do
  let after ← c.stepFeeder event
  match event with
  | .write count =>
    let feeder ← c.feeder
    return { after with input := ← c.input.write (feeder.buffer.take count) }
  | .pipeFails _ => if c.input.readerOpen then none else return after
  | .close => return { after with input := c.input.closeWriter }
  | .stop => if c.stopAsked then return { after with input := c.input.closeWriter } else none
  | .fill _ | .sourceEnds | .sourceFails _ => return after

/-- Whether a process was started. -/
def hasStarted (c : Call) : Bool := c.child != .notStarted

/-- The call after a move, if the move may be made. -/
def step (c : Call) : Move → Option Call
  | .cancel => some { c with cancelled := true }
  | .enter => if c.phase matches .entering then some c.enter else none
  | .spawn => if c.phase matches .starting then some c.spawn else none
  | .spawnFails e =>
    if c.phase matches .starting then some (c.refuse (.error (Fault.ofStart e))) else none
  | .poll => c.poll
  | .waitFails e =>
    if c.awaitsExit then some (c.finish (.error (Fault.ofWait e))) else none
  | .reap =>
    match c.phase, c.child with
    | .killing, .ended status =>
      some (({ c with child := .reaped status } : Call).finish (.error .cancelled))
    | _, _ => none
  | .childWrites stream bytes =>
    if !c.hasStarted || stream = .stdin then none
    else if c.supplies stream then c.along stream (.writes bytes)
    else some c
  | .childCloses stream =>
    if !c.hasStarted then none
    else if stream = .stdin then some { c with input := c.input.closeReader }
    else if c.supplies stream then c.along stream .closes
    else some c
  | .childReads count =>
    if c.hasStarted && c.hasStdin then
      (c.input.read count).map fun r => { c with input := r.2 }
    else none
  | .childSeesEnd =>
    if c.hasStarted && (!c.hasStdin || c.input.atEnd) then some c else none
  | .childEnds status =>
    match c.child with
    | .running => some { c with child := .ended status }
    | _ => none
  | .copierReads stream count => c.along stream (.reads count)
  | .copier stream event =>
    if event = .stop && !c.stopAsked then none else c.along stream (.copier event)
  | .feeder event => c.feed event

/-- The call after moves made one after the other. -/
def run (c : Call) : List Move → Option Call
  | [] => some c
  | m :: rest => (c.step m).bind fun c => c.run rest

end Call

end GitSteward
