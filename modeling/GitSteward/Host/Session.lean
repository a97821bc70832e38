-- An engine at work on a machine. Each request has a client, whose source and sinks answer in the
-- way that they were told to, and perhaps processes, which do what their programs say. A session
-- only ever makes moves that `Workload.step` allows: it looks for one that can be made now, and
-- lets time pass when there is none.
import GitSteward.Host.Program
import GitSteward.Workload

namespace GitSteward.Host

/-- When the client of a request cancels it. -/
inductive CancelRule where
  | never
  /-- once its output shows some text -/
  | onOutput (text : String)
  /-- at some time -/
  | atTime (time : Nat)
deriving Repr, Inhabited

/-- What stands around one request. -/
structure Client where
  request : Request
  /-- the token of the caller -/
  token : Nat
  source : Source := {}
  /-- whether the sinks were not ready when they were last asked -/
  outAsked : Bool := false
  errAsked : Bool := false
  rule : CancelRule := .never
  /-- the first process, until the engine has waited for it -/
  pid : Option Nat := none
deriving Inhabited

structure Session where
  workload : Workload
  machine : Machine
  /-- the directory of the server -/
  here : Path
  clients : List Client := []
  /-- the time that is not passed -/
  horizon : Option Nat := none
deriving Inhabited

namespace Client

/-- The sink of an output. -/
def sink (c : Client) : StreamName → Sink
  | .stdin => {}
  | .stdout => c.request.stdout.getD {}
  | .stderr => c.request.stderr.getD {}

/-- Whether the sink of an output was not ready when it was last asked. -/
def asked (c : Client) : StreamName → Bool
  | .stdin => false
  | .stdout => c.outAsked
  | .stderr => c.errAsked

def setAsked (c : Client) (asked : Bool) : StreamName → Client
  | .stdin => c
  | .stdout => { c with outAsked := asked }
  | .stderr => { c with errAsked := asked }

/-- How the sink of an output answers now, when it has taken so many bytes already. -/
def reply (c : Client) (stream : StreamName) (taken offered : Nat) : SinkReply × Client :=
  let sink := c.sink stream
  if sink.hesitates && !c.asked stream then (.notReady, c.setAsked true stream)
  else (sink.reply taken offered, c.setAsked false stream)

end Client

/-- Something that a task of the engine can do now: a move, and the client after it. -/
structure Turn where
  move : Move
  client : Client
deriving Inhabited

/-- The signal that kills. -/
def killSignal : Nat := 9

/-- What a copier can do now. -/
def copierTurn (c : Client) (call : Call) (stream : StreamName) : Option Turn := do
  let ⟨pipe, copier⟩ ← call.line? stream
  let event (e : CopierEvent) : Move := .copier stream e
  match copier.phase with
  | .done | .stopped => none
  | phase =>
    if call.stopAsked then return { move := event .stop, client := c }
    match phase with
    | .reading =>
      if !pipe.held.isEmpty then
        return { move := Move.copierReads stream (min copyPiece pipe.held.length), client := c }
      else if pipe.atEnd then return { move := event .pipeEnds, client := c }
      else none
    | .writing left =>
      let (reply, c) := c.reply stream copier.taken.length left.length
      return { move := event (.sink reply), client := c }
    | .flushing =>
      match (c.sink stream).flushError with
      | some e => return { move := event (.flushFails e), client := c }
      | none => return { move := event .flushed, client := c }
    | .done | .stopped => none

/-- What the feeder can do now. It fills its buffer only when that is empty. -/
def feederTurn (c : Client) (call : Call) : Option Turn := do
  let feeder ← call.feeder
  let turn (e : FeederEvent) : Turn := { move := Move.feeder e, client := c }
  match feeder.phase with
  | .done | .stopped => none
  | .closing => return turn .close
  | .copying =>
    if call.stopAsked then return turn .stop
    else if !feeder.buffer.isEmpty then
      if !call.input.readerOpen then return turn (.pipeFails Doing.brokenPipe)
      else if call.input.room = 0 then none
      else return turn (.write (min call.input.room feeder.buffer.length))
    else
      match c.source.next feederRoom with
      | (.ok bytes, source) =>
        return { move := Move.feeder (.fill bytes), client := { c with source } }
      | (.error .ended, _) => return turn .sourceEnds
      | (.error (.fails e), _) => return turn (.sourceFails e)
      | (.error .idle, _) => none

/-- Whether the main task of a call would do anything if it looked around. -/
def pollHelps (call : Call) (cancelled : Bool) : Bool :=
  match call.phase with
  | .draining => cancelled || call.copiersDone
  | .waiting => cancelled || (call.child matches .ended _)
  | _ => false

/-- What the tasks of a call can do now that pass bytes on. -/
def copyTurn (c : Client) (call : Call) : Option Turn :=
  feederTurn c call <|> copierTurn c call .stdout <|> copierTurn c call .stderr

/-- Whether the end of a pipe is open that processes may hold. -/
def isOpen (call : Call) (stream : StreamName) : Bool :=
  call.hasStarted && match stream with
    | .stdin => call.hasStdin && call.input.readerOpen
    | .stdout => call.hasStdout && call.output.writerOpen
    | .stderr => call.hasStderr && call.errors.writerOpen

namespace Session

def now (s : Session) : Nat := s.workload.tokens.clock

/-- Makes a move of the workload. A move that is not allowed is not made. -/
def step (s : Session) (m : WorkloadMove) : Session :=
  match s.workload.step m with
  | some workload => { s with workload }
  | none => s

def setClient (s : Session) (i : Nat) (c : Client) : Session :=
  { s with clients := s.clients.set i c }

/-- The session after the work on a request has made a move. -/
def make (s : Session) (i : Nat) (m : Move) : Session := s.step (.work i (.call m))

/-- The files of the machine. -/
def files (s : Session) : Files := s.machine.scene.files

def setScene (s : Session) (scene : Scene) : Session :=
  { s with machine := { s.machine with scene } }

/-- Starts the process of a call, or finds out why it cannot be started. -/
def spawn (s : Session) (i : Nat) (c : Client) (call : Call) : Session :=
  match Host.start s.files s.here call.launch with
  | .error e => s.make i (.spawnFails e)
  | .ok image =>
    let launch := call.launch.withStreams call.hasStdin call.hasStdout call.hasStderr
    let scene := { s.machine.scene with clock := s.now }
    let (pid, machine) := ({ s.machine with scene } : Machine).launch i launch image
    (({ s with machine } : Session).setClient i { c with pid := some pid }).make i .spawn

/-- Takes a turn. -/
def take (s : Session) (i : Nat) (t : Turn) : Session := (s.setClient i t.client).make i t.move

/-- The session after a stream has been closed that no process holds any more. -/
def closeStream (s : Session) (i : Nat) (call : Call) : Option Session :=
  (StreamName.all.find? fun stream =>
    isOpen call stream && !s.machine.scene.portHeld i stream).map
      fun stream => s.make i (.childCloses stream)

/-- The session after the engine has been told that the first process has ended. -/
def noticeEnd (s : Session) (i : Nat) (c : Client) (call : Call) : Option Session := do
  let p ← s.machine.scene.find? (← c.pid)
  let stop ← p.ending
  if call.child matches .running then return s.make i (.childEnds stop.status) else none

/-- The session after the first process has been killed. -/
def killChild (s : Session) (i : Nat) (c : Client) : Session :=
  let scene := match c.pid.filter s.machine.scene.isAlive with
    | some pid => s.machine.scene.finish pid (.killed killSignal)
    | none => s.machine.scene
  let s := s.setScene scene
  let stop := (c.pid.bind scene.find?).bind (·.ending)
  s.make i (.childEnds (stop.getD (.killed killSignal)).status)

/-- The session after a process is gone that the engine has waited for. -/
def forget (s : Session) (i : Nat) (c : Client) (call : Call) : Option Session := do
  let pid ← c.pid
  if call.child matches .reaped _ then
    return (s.setScene (s.machine.scene.remove pid)).setClient i { c with pid := none }
  else none

/-- The session after one of the processes of a request has gone on, if one can. -/
def goOn (s : Session) (i : Nat) (call : Call) : Option Session := do
  let scene := { s.machine.scene with
    clock := s.now
    ports := { input := call.input, output := call.output, errors := call.errors }
    moves := [] }
  let machine : Machine := { s.machine with scene }
  let family := scene.processes.filter fun p => p.client = i && p.lives
  let machine ← family.findSome? fun p => machine.turn? p.pid
  let s := { s with machine := { machine with scene := { machine.scene with moves := [] } } }
  return machine.scene.moves.reverse.foldl (·.make i ·) s

/-- The session after bytes have been passed on for a request, or processes have done something. -/
def advanceStreams (s : Session) (i : Nat) (c : Client) (call : Call) : Option Session :=
  (copyTurn c call).map (s.take i) <|> s.closeStream i call <|> s.noticeEnd i c call <|>
  s.goOn i call

/-- The session after something that can be done now for a call that has been started. -/
def advanceCall (s : Session) (i : Nat) (c : Client) (call : Call) (cancelled : Bool) :
    Option Session :=
  match call.phase, call.child with
  | .killing, .running => some (s.killChild i c)
  | .killing, _ => some (s.make i .reap)
  | .returned _, _ => s.forget i c call <|> s.advanceStreams i c call
  | _, _ =>
    if cancelled then some (s.make i .poll)
    else s.advanceStreams i c call <|>
      if pollHelps call cancelled then some (s.make i .poll) else none

/-- The session after something that can be done now for a request, if anything can. -/
def advanceJob (s : Session) (i : Nat) : Option Session := do
  let job ← s.workload.jobs[i]?
  let c ← s.clients[i]?
  if job.outcome.isNone && job.work.outcome?.isSome then return s.step (.finish i)
  let cancelled := s.workload.tokens.isCancelled job.token
  match job.work with
  | .refused _ => none
  | .handler r =>
    match r.phase with
    | .called => return s.step (.work i (.handler .start))
    | .writing left =>
      let (reply, c) := c.reply .stdout r.taken.length left.length
      return (s.setClient i c).step (.work i (.handler (.sink reply)))
    | .waiting => if cancelled then return s.step (.work i (.handler .look)) else none
    | .ended _ => none
  | .process call =>
    match call.phase with
    | .entering => return s.make i .enter
    | .starting => return s.spawn i c call
    | _ => s.advanceCall i c call cancelled

/-- The session after something that can be done now for any request. -/
def advanceAny (s : Session) : Option Session :=
  (List.range s.workload.jobs.length).findSome? s.advanceJob

/-- What the client of a request has received of the output. -/
def received (s : Session) (i : Nat) : Bytes :=
  match s.workload.jobs[i]?.map Job.work with
  | some (.process call) => (call.outCopier.map (·.taken.bytes)).getD []
  | some (.handler r) => r.taken.bytes
  | _ => []

/-- Whether bytes hold others. -/
def holdsBytes (part : Bytes) : Bytes → Bool
  | [] => part.isEmpty
  | b :: rest => part.isPrefixOf (b :: rest) || holdsBytes part rest

/-- Whether bytes show a text to one who reads them as a text. -/
def shows (text : String) (bytes : Bytes) : Bool :=
  holdsBytes (Text.utf8 text) (Text.utf8 (Text.lossy bytes))

/-- The session after a client has seen what it waits for in the output of its request. -/
def noticeOutput (s : Session) (i : Nat) : Option Session := do
  let c ← s.clients[i]?
  match c.rule with
  | .onOutput text =>
    if shows text (s.received i) then
      return s.setClient i { c with rule := .atTime s.now }
    else none
  | _ => none

/-- The session after a client has cancelled its request. -/
def cancelDue (s : Session) (i : Nat) : Option Session := do
  let c ← s.clients[i]?
  match c.rule with
  | .atTime time =>
    if time ≤ s.now then
      return (s.setClient i { c with rule := .never }).step (.cancel c.token)
    else none
  | _ => none

/-- Whether the request is over and nothing goes on for it. -/
def isOver (s : Session) (i : Nat) : Bool :=
  match s.workload.jobs[i]? with
  | some j => j.outcome.isSome && match j.work with
    | .process call => call.isQuiet
    | _ => true
  | none => true

/-- The times at which the clients of requests that are not over do something. -/
def cancelTimes (s : Session) : List Nat :=
  (List.range s.clients.length).filterMap fun i =>
    if s.isOver i then none
    else match s.clients[i]?.map Client.rule with
      | some (.atTime time) => some time
      | _ => none

/-- The session after time has passed until something may happen, if it ever does before the
horizon. -/
def wait (s : Session) : Option Session := do
  let times := s.machine.alarms ++ s.cancelTimes ++ s.workload.tokens.nextDue.toList ++
    s.horizon.toList
  let next ← (times.filter (s.now < ·)).min?
  if s.horizon = some s.now then none
  else return s.step (.advance (next - s.now))

/-- The session after the next thing that happens. What can be done at once comes first, then
what clients do at this time; only then does time pass. -/
def next (s : Session) : Option Session :=
  let indices := List.range s.clients.length
  s.advanceAny <|> indices.findSome? s.noticeOutput <|> indices.findSome? s.cancelDue <|>
  if indices.all s.isOver then none else s.wait

/-- Goes on until something is so or nothing more happens. -/
def runFor (stop : Session → Bool) : Nat → Session → Session
  | 0, s => s
  | fuel + 1, s =>
    if stop s then s
    else match s.next with
      | some s => runFor stop fuel s
      | none => s

/-- More steps than any session takes. -/
def stepLimit : Nat := 1_000_000_000_000

/-- Goes on until something is so. -/
def runUntil (s : Session) (stop : Session → Bool) : Session := runFor stop stepLimit s

/-- Goes on until all requests are over. -/
def settle (s : Session) : Session := s.runUntil fun _ => false

/-- Goes on for a while. -/
def runOn (s : Session) (span : Nat) : Session :=
  { ({ s with horizon := some (s.now + span) } : Session).settle with horizon := none }

/-- Takes on a request. -/
def arrive (s : Session) (entry : Entry) (r : Request) (token : Nat) (rule : CancelRule) :
    Session :=
  let client : Client := { request := r, token, source := r.stdin.getD {}, rule }
  ({ s with clients := s.clients ++ [client] } : Session).step (.arrive entry r token)

end Session

end GitSteward.Host
