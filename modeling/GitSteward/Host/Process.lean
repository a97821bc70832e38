-- The processes of a machine and what they share: the files, the pipes between them, and the
-- pipes that lead to the clients of an engine. A process that has ended lets go of all that it
-- holds, and stays until the one that started it has seen how it ended.
import GitSteward.Call
import GitSteward.Host.Start

namespace GitSteward.Host

/-- The nanoseconds in a millisecond. -/
def millisecond : Nat := 1_000_000

/-- How long it takes until the first process of a request does something. -/
def startupTime : Nat := 2 * millisecond

/-- How long it takes until a process that was started by another one does something. -/
def forkTime : Nat := millisecond

/-- Where a descriptor leads. -/
inductive Channel where
  /-- a stream between the process and the client that it works for -/
  | port (stream : StreamName)
  | device (device : Device)
  /-- a file that was opened, by number -/
  | file (number : Nat)
  /-- the end of a pipe between processes that is read, by number -/
  | source (number : Nat)
  /-- the end that is written to -/
  | target (number : Nat)
deriving Repr, DecidableEq, Inhabited

/-- How a file is to be opened. -/
inductive OpenMode where
  | read
  | write
  | append
  | both
deriving Repr, DecidableEq, Inhabited

/-- A file that was opened. All descriptors that lead to it share the place in it. -/
structure OpenFile where
  path : Path
  mode : OpenMode
  offset : Nat := 0
deriving Repr, DecidableEq, Inhabited

/-- Descriptors and where they lead. -/
abbrev Descriptors := List (Nat × Channel)

/-- How a process ended. -/
inductive Stop where
  | exited (code : Nat)
  | killed (signal : Nat)
deriving Repr, DecidableEq, Inhabited

/-- The status that the one who waits for a process is told. -/
def Stop.status : Stop → WaitStatus
  | exited code => .exited code.toUInt8
  | killed signal => .signaled signal

/-- The code by which a shell tells how a process ended. -/
def Stop.code : Stop → Nat
  | exited code => code % 256
  | killed signal => 128 + signal

structure Process where
  pid : Nat
  /-- who started it, or `adopter` once that one has ended -/
  parent : Nat
  /-- the request that it works for -/
  client : Nat
  /-- the program that it runs -/
  tool : String := "sh"
  dir : Path
  descriptors : Descriptors
  /-- the permissions that new files do not get -/
  umask : Nat := 18
  /-- signals that do nothing to it -/
  ignored : List Nat := []
  /-- signals that it deals with itself -/
  handled : List Nat := []
  /-- those of them that have come and are still to be dealt with -/
  pending : List Nat := []
  /-- whether it has been told to stand still -/
  paused : Bool := false
  /-- the time until which it does nothing -/
  alarm : Option Nat := none
  /-- how much it has taken from what never ends -/
  drawn : Nat := 0
  ending : Option Stop := none
deriving Inhabited

/-- Whether it has not ended. -/
def Process.lives (p : Process) : Bool := p.ending.isNone

/-- Who stands behind an engine as the one that starts processes. -/
def serverPid : Nat := 0

/-- Who takes over the processes whose starter has ended. -/
def adopter : Nat := 1

/-- The pipes between the processes of a request and its client. -/
structure Ports where
  input : Pipe := {}
  output : Pipe := {}
  errors : Pipe := {}
deriving Inhabited

/-- All processes and what they share, seen by one of them. -/
structure Scene where
  clock : Nat := 0
  files : Files := {}
  processes : List Process := []
  /-- the process that does something now -/
  current : Nat := 0
  /-- the pipes to the client of that one -/
  ports : Ports := {}
  openFiles : List (Nat × OpenFile) := []
  pipes : List (Nat × Pipe) := []
  /-- the pipes that lead to a process which has opened an output to read, by number -/
  taps : List (Nat × StreamName) := []
  nextNumber : Nat := 0
  nextPid : Nat := 1000
  /-- what was done to the ports since they were last looked at, last to first -/
  moves : List Move := []
deriving Inhabited

namespace Scene

def find? (s : Scene) (pid : Nat) : Option Process := s.processes.find? (·.pid = pid)

/-- The process that does something now. -/
def me (s : Scene) : Process := (s.find? s.current).getD default

def update (s : Scene) (pid : Nat) (change : Process → Process) : Scene :=
  { s with processes := s.processes.map fun p => if p.pid = pid then change p else p }

def updateMe (s : Scene) (change : Process → Process) : Scene := s.update s.current change

/-- Whether there is a process that has not ended. -/
def isAlive (s : Scene) (pid : Nat) : Bool := (s.find? pid).any (·.lives)

/-- Whether a descriptor of any process leads there. -/
def isHeld (s : Scene) (c : Channel) : Bool :=
  s.processes.any fun p => p.descriptors.any (·.2 = c)

/-- Whether a process that works for a client holds a stream to it. -/
def portHeld (s : Scene) (client : Nat) (stream : StreamName) : Bool :=
  s.processes.any fun p => p.client = client && p.descriptors.any (·.2 = .port stream)

/-- The pipe of a stream to the client of the process. -/
def port (s : Scene) : StreamName → Pipe
  | .stdin => s.ports.input
  | .stdout => s.ports.output
  | .stderr => s.ports.errors

/-- The output that a pipe is a tap on, as long as that can be written to. -/
def tapped? (s : Scene) (number : Nat) : Option StreamName :=
  (s.taps.lookup number).filter fun stream => (s.port stream).writerOpen

/-- Notes what is done to a port. -/
def note (s : Scene) (m : Move) : Scene := { s with moves := m :: s.moves }

/-! ## Descriptors -/

/-- Descriptors with one that leads somewhere else, or nowhere. -/
def leading (fd : Nat) (c : Option Channel) (ds : Descriptors) : Descriptors :=
  let others := ds.filter (·.1 ≠ fd)
  match c with
  | some c => (fd, c) :: others
  | none => others

def setChannel (s : Scene) (fd : Nat) (c : Option Channel) : Scene :=
  s.updateMe fun p => { p with descriptors := leading fd c p.descriptors }

/-- Where a descriptor of the process leads. -/
def channel (s : Scene) (fd : Nat) : Option Channel := s.me.descriptors.lookup fd

/-- What a descriptor leads to, as something that files may lead to. -/
def behind (s : Scene) (fd : Nat) : Option Node :=
  match s.channel fd with
  | some (.device d) => some (.device d)
  | some (.file number) => (s.openFiles.lookup number).bind fun f => s.files.get? f.path
  | some _ => some .pipe
  | none => none

def setPipe (s : Scene) (number : Nat) (p : Pipe) : Scene :=
  { s with pipes := (number, p) :: s.pipes.filter (·.1 ≠ number) }

def pipe (s : Scene) (number : Nat) : Pipe := (s.pipes.lookup number).getD {}

/-- Opens an output to read from it. -/
def tap (s : Scene) (stream : StreamName) : Channel × Scene :=
  (.source s.nextNumber, { s with
    nextNumber := s.nextNumber + 1
    pipes := (s.nextNumber, {}) :: s.pipes
    taps := (s.nextNumber, stream) :: s.taps })

def setOpenFile (s : Scene) (number : Nat) (f : OpenFile) : Scene :=
  { s with openFiles := (number, f) :: s.openFiles.filter (·.1 ≠ number) }

/-- Forgets the pipes and open files to which no descriptor leads. -/
def sweep (s : Scene) : Scene :=
  let isLed (number : Nat) := s.isHeld (.source number) || s.isHeld (.target number)
  { s with
    pipes := s.pipes.filter fun p => isLed p.1
    taps := s.taps.filter fun t => isLed t.1
    openFiles := s.openFiles.filter fun f => s.isHeld (.file f.1) }

/-! ## Beginning and end -/

/-- Adds a process. -/
def add (s : Scene) (p : Process) : Scene := { s with processes := s.processes ++ [p] }

/-- Starts a process that is like the one that does so, up to a change. -/
def fork (s : Scene) (change : Process → Process) : Nat × Scene :=
  let me := s.me
  let child := change { me with parent := me.pid, pending := [], alarm := none }
  (s.nextPid, ({ s with nextPid := s.nextPid + 1 } : Scene).add { child with pid := s.nextPid })

/-- Takes out a process that has ended. -/
def remove (s : Scene) (pid : Nat) : Scene :=
  { s with processes := s.processes.filter (·.pid ≠ pid) }

/-- The signal for one whose child has ended. -/
def childSignal : Nat := 17

/-- A process to which a signal has come that it deals with itself. -/
def withPending (signal : Nat) (p : Process) : Process :=
  { p with pending := signal :: p.pending.filter (· ≠ signal) }

/-- Ends a process. Those that it has started are taken over, and are gone if they have ended. -/
def finish (s : Scene) (pid : Nat) (stop : Stop) : Scene :=
  let starter := (s.find? pid).map (·.parent)
  let ended (p : Process) : Process :=
    if p.pid = pid then { p with
      ending := some stop, descriptors := [], alarm := none, pending := [], paused := false }
    else if p.parent = pid then { p with parent := adopter }
    else if starter = some p.pid && p.handled.contains childSignal then withPending childSignal p
    else p
  let left := (s.processes.map ended).filter fun p => p.lives || p.parent ≠ adopter
  ({ s with processes := left } : Scene).sweep

/-! ## Signals -/

/-- The signals that do nothing to a process that has not asked for them. -/
def harmlessSignals : List Nat := [childSignal, 23, 28]

/-- The signals that make a process stand still. -/
def pausingSignals : List Nat := [19, 20, 21, 22]

/-- The signal that makes it go on. -/
def continuingSignal : Nat := 18

/-- The signals about which a process has no say: one kills, the other pauses. -/
def surestSignals : List Nat := [9, 19]

/-- The signal for one who writes to a pipe that nobody reads. -/
def pipeSignal : Nat := 13

/-- What a signal does to a process that takes it: nothing, or it is noted, or the process pauses,
goes on, or ends. -/
def signal (s : Scene) (p : Process) (signal : Nat) : Scene :=
  let own := !surestSignals.contains signal
  let s := if signal = continuingSignal then s.update p.pid fun p => { p with paused := false }
    else s
  if !p.lives || signal = 0 then s
  else if own && p.ignored.contains signal then s
  else if own && p.handled.contains signal then s.update p.pid (withPending signal)
  else if harmlessSignals.contains signal || signal = continuingSignal then s
  else if pausingSignals.contains signal then s.update p.pid fun p => { p with paused := true }
  else s.finish p.pid (.killed signal)

/-- Whether a process was started by another one, or by one that was, up to so many in between. -/
def descends (s : Scene) (ancestor : Nat) : Nat → Nat → Bool
  | 0, _ => false
  | fuel + 1, pid => (s.find? pid).any fun p =>
    p.parent = ancestor || s.descends ancestor fuel p.parent

/-- Sends a signal to all processes that descend from one. -/
def signalBelow (s : Scene) (ancestor : Nat) (signal : Nat) : Scene :=
  (s.processes.filter fun p => s.descends ancestor s.processes.length p.pid).foldl
    (fun after p => after.signal p signal) s

/-- Sends a signal to a process, if there is one, even one that has ended. -/
def send (s : Scene) (pid signal : Nat) : Option Scene :=
  (s.find? pid).map fun p => s.signal p signal

end Scene

end GitSteward.Host
