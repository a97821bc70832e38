-- What a process does, step by step. A step is taken in a scene and leads to another one. Some
-- steps can only be taken in some scenes, and the process waits until one has come about: until
-- there is something to read, or room to write, or until a time has come.
import GitSteward.Host.Process

namespace GitSteward.Host

/-- What a process is still to do. -/
inductive Course where
  | ended (code : Nat)
  /-- a step, unless it cannot be taken now -/
  | step (go : Scene → Option (Course × Scene))
  /-- another process is started, which is like this one up to a change -/
  | fork (change : Process → Process) (child : Course) (next : Nat → Course)
deriving Inhabited

/-- Something that a process does and that has a result: a course for each thing that may be done
with the result afterwards. -/
def Doing (α : Type) : Type := (α → Course) → Course

namespace Doing

instance : Monad Doing where
  pure a := fun next => next a
  bind d f := fun next => d fun a => f a next

/-- A single step, as soon as it can be taken. -/
def attempt (go : Scene → Option (α × Scene)) : Doing α := fun next =>
  .step fun s => (go s).map fun r => (next r.1, r.2)

instance : MonadStateOf Scene Doing where
  get := attempt fun s => some (s, s)
  set s := attempt fun _ => some ((), s)
  modifyGet f := attempt fun s => some (f s)

instance : Inhabited (Doing α) := ⟨fun _ => .step fun _ => none⟩

/-- Waits for something that never comes. -/
def hang : Doing α := fun _ => .step fun _ => none

/-- Ends the process, whatever it was about to do. -/
def exit (code : Nat) : Doing α := fun _ => .ended code

/-- The course of a process that ends with the code that it comes to. -/
def course (d : Doing Nat) : Course := d .ended

/-- The process itself. -/
def process : Doing Process := do return (← get).me

def modifyProcess (f : Process → Process) : Doing Unit := modify fun s => s.updateMe f

def files : Doing Files := do return (← get).files

/-- Lets time pass. -/
def pass (span : Nat) : Doing Unit := do
  modify fun s => s.updateMe fun p => { p with alarm := some (s.clock + span) }
  attempt fun s =>
    if s.me.alarm.any (s.clock < ·) then none
    else some ((), s.updateMe fun p => { p with alarm := none })

/-- Starts a child, which begins a little later, and gives its number. -/
def fork (change : Process → Process) (child : Doing Nat) : Doing Nat := fun next =>
  .fork change (course do
    pass forkTime
    child) next

/-- Waits until a child has ended, and takes it out of the scene. One who is alert gives up when a
signal comes. The result is none for that and for one who has no children. -/
def reap (alert : Bool) : Doing (Option (Nat × Stop)) := attempt fun s =>
  let children := s.processes.filter (·.parent = s.current)
  match children.findSome? fun p => p.ending.map fun stop => (p.pid, stop) with
  | some found => some (some found, s.remove found.1)
  | none =>
    if children.isEmpty || (alert && !s.me.pending.isEmpty) then some (none, s) else none

/-- Waits until a child has ended, and takes it out of the scene, but no longer than for a while. -/
def reapWithin (span : Nat) : Doing (Option (Nat × Stop)) := do
  modify fun s => s.updateMe fun p => { p with alarm := some (s.clock + span) }
  attempt fun s =>
    let s' := s.updateMe fun p => { p with alarm := none }
    match (s.processes.filter (·.parent = s.current)).findSome? fun p =>
        p.ending.map fun stop => (p.pid, stop) with
    | some found => some (some found, s'.remove found.1)
    | none => if s.me.alarm.any (s.clock < ·) then none else some (none, s')

/-- The signals that have come and that the process deals with itself. They are taken to have been
dealt with. -/
def takePending : Doing (List Nat) := modifyGet fun s =>
  (s.me.pending, if s.me.pending.isEmpty then s
    else s.updateMe fun p => { p with pending := [] })

/-- Sends a signal to a process. The result tells whether there is one. -/
def send (pid signal : Nat) : Doing Bool := modifyGet fun s =>
  match s.send pid signal with
  | some after => (true, after)
  | none => (false, s)

/-! ## Files -/

/-- Changes what is at a place. -/
def putNode (path : Path) (node : Node) : Doing Unit :=
  modify fun s => { s with files := s.files.put path node }

/-- Removes what is at a place. -/
def removeNode (path : Path) : Doing Unit :=
  modify fun s => { s with files := s.files.erase path }

/-- What opening something makes of it, if anything. -/
def openNode (mode : OpenMode) : Option Node → Except PathError (Option Node)
  | none => if mode = .read then .error .missing else .ok (some (.file [] false))
  | some .directory => if mode = .read then .ok none else .error .isDirectory
  | some (.file _ runnable) => .ok (if mode = .write then some (.file [] runnable) else none)
  | some _ => .ok none

/-- Opens what is at a place. -/
def openPlace (path : Path) (mode : OpenMode) : Doing (Except PathError Channel) := do
  let s ← get
  match openNode mode (s.files.get? path) with
  | .error e => return .error e
  | .ok change =>
    if let some new := change then putNode path new
    modifyGet fun s => (.ok (.file s.nextNumber), { s with
      nextNumber := s.nextNumber + 1
      openFiles := (s.nextNumber, { path, mode }) :: s.openFiles })

/-- Opens a pipe once more, at the end that the mode asks for. Until an output has ended its bytes
are taken to go to the client. Whoever opens it to read gets what is written after that. -/
def reopen (c : Channel) (mode : OpenMode) : Doing Channel := modifyGet fun s =>
  match c, mode with
  | .port .stdout, .read => s.tap .stdout
  | .port .stderr, .read => s.tap .stderr
  | .target number, .read => (.source number, s)
  | .source number, .write | .source number, .append =>
    (((s.tapped? number).map .port).getD (.target number), s)
  | c, _ => (c, s)

/-- Opens a path. One that stands for a descriptor opens once more what that leads to. -/
def openPath (text : String) (mode : OpenMode) : Doing (Except PathError Channel) := do
  let s ← get
  match s.files.resolve s.me.dir text with
  | .error e => return .error e
  | .ok path =>
    match s.files.get? path with
    | some (.device .terminal) => return .error .noDevice
    | some (.device (.descriptor fd)) =>
      match s.channel fd with
      | none => return .error .missing
      | some (.file number) =>
        match s.openFiles.lookup number with
        | some f => openPlace f.path mode
        | none => return .error .missing
      | some c => return .ok (← reopen c mode)
    | some (.device d) => return .ok (.device d)
    | _ => openPlace path mode

/-- Bytes written over others from some place on. -/
def overwrite (content : Bytes) (offset : Nat) (bytes : Bytes) : Bytes :=
  content.take offset ++ List.replicate (offset - content.length) 0 ++ bytes ++
  content.drop (offset + bytes.length)

/-! ## Errors -/

/-- The error of a descriptor that leads nowhere. -/
def badDescriptor : SystemError := .numbered 9

/-- The error of a call that a signal has interrupted. -/
def interrupted : SystemError := .numbered 4

/-- The error of a device without room. -/
def noSpace : SystemError := .numbered 28

/-- The error of a pipe that nobody reads. -/
def brokenPipe : SystemError := .numbered 32

/-! ## Writing -/

/-- How much is written at once into a pipe with some room: short pieces are not divided. -/
def pieceFor (room length : Nat) : Nat :=
  if room < length && length ≤ 4096 then 0 else min room length

/-- Offers bytes to a pipe. If nobody reads it the process is sent a signal, which it may survive.
The result is how many bytes the pipe has taken. -/
def offer (p : Pipe) (isRead : Bool) (bytes : Bytes) (take : Nat → Scene → Scene) (s : Scene) :
    Option (Except SystemError Nat × Scene) :=
  if !isRead then some (.error brokenPipe, s.signal s.me Scene.pipeSignal)
  else
    let n := pieceFor p.room bytes.length
    if n = 0 then none else some (.ok n, take n s)

/-- Writes once to a channel. The result is how many bytes have been written. -/
def writeOnce (c : Channel) (bytes : Bytes) (s : Scene) :
    Option (Except SystemError Nat × Scene) :=
  let port (p : Pipe) (stream : StreamName) := offer p p.readerOpen bytes
    (fun n s => s.note (.childWrites stream (bytes.take n))) s
  match c with
  | .source _ | .port .stdin => some (.error badDescriptor, s)
  | .device .full => some (.error noSpace, s)
  | .device _ => some (.ok bytes.length, s)
  | .port .stdout => port s.ports.output .stdout
  | .port .stderr => port s.ports.errors .stderr
  | .target number =>
    let p := s.pipe number
    offer p (s.isHeld (.source number)) bytes
      (fun n s => s.setPipe number { p with held := p.held.append (bytes.take n) }) s
  | .file number =>
    match s.openFiles.lookup number with
    | none => some (.error badDescriptor, s)
    | some f =>
      if f.mode = .read then some (.error badDescriptor, s)
      else match s.files.get? f.path with
        | some (.file content runnable) =>
          let offset := if f.mode = .append then content.length else f.offset
          let node := Node.file (overwrite content offset bytes) runnable
          some (.ok bytes.length,
            ({ s with files := s.files.put f.path node } : Scene).setOpenFile number
              { f with offset := offset + bytes.length })
        | _ => some (.ok bytes.length, s)

/-- Writes bytes to a channel one piece after the other. -/
def writeAll (c : Channel) : Nat → Bytes → Doing (Except SystemError Unit)
  | 0, _ | _, [] => return .ok ()
  | fuel + 1, bytes => do
    match ← attempt (writeOnce c bytes) with
    | .error e => return .error e
    | .ok n => writeAll c fuel (bytes.drop n)

/-- Writes to a descriptor. -/
def writeTo (fd : Nat) (bytes : Bytes) : Doing (Except SystemError Unit) := do
  if bytes.isEmpty then return .ok ()
  match (← get).channel fd with
  | none => return .error badDescriptor
  | some c => writeAll c bytes.length bytes

/-- Writes a text to the error output, as far as that is possible. -/
def complain (text : String) : Doing Unit := do
  let _ ← writeTo 2 (Text.utf8 text)

/-- The reason of an error, in words. -/
def reasonOf : SystemError → String
  | .numbered n => systemErrorText n
  | e => e.message

/-- The code of a program that could not write its output. -/
def lossCode (tool : String) : Nat :=
  (([("sort", 2), ("grep", 2), ("ls", 2), ("env", 125), ("timeout", 125)] :
    List (String × Nat)).lookup tool).getD 1

/-- What a program says that could not write its output. -/
def lossText (tool : String) (e : SystemError) : String :=
  let output := "'standard output': " ++ reasonOf e ++ "\n"
  if tool = "sort" then "sort: fflush failed: " ++ output ++ "sort: write error\n"
  else if tool = "yes" || (tool = "cat" && e = badDescriptor) then
    tool ++ ": standard output: " ++ reasonOf e ++ "\n"
  else tool ++ ": write error: " ++ reasonOf e ++ "\n"

/-- Writes to the standard output. A program that cannot do so complains and gives up. -/
def put (bytes : Bytes) : Doing Unit := do
  if let .error e ← writeTo 1 bytes then
    let tool := (← process).tool
    complain (lossText tool e)
    exit (lossCode tool)

/-- Writes a text to the standard output. -/
def say (text : String) : Doing Unit := put (Text.utf8 text)

/-! ## Reading -/

/-- How much is taken quickly from what never ends. Whoever goes on after that is kept waiting. -/
def quickAmount : Nat := 4 * 1024 * 1024

/-- Lets the time pass that it takes to make so many bytes of something that never ends. -/
def draw (count : Nat) : Doing Unit := do
  let drawn := (← process).drawn
  modifyProcess fun p => { p with drawn := drawn + count }
  pass ((if drawn < quickAmount then 4 else 1000) * count)

/-- Takes at most so many bytes from a pipe, if there are any. `isWritten` tells whether more may
come. -/
def takeFrom (p : Pipe) (isWritten alert : Bool) (count : Nat) (take : Bytes → Pipe → Scene → Scene)
    (s : Scene) : Option (Except SystemError Bytes × Scene) :=
  if p.held.isEmpty then
    if isWritten then
      if alert && !s.me.pending.isEmpty then some (.error interrupted, s) else none
    else some (.ok [], take [] p s)
  else
    let (bytes, held) := p.held.split count
    some (.ok bytes, take bytes { p with held } s)

/-- Reads once from a channel. -/
def readOnce (c : Channel) (alert : Bool) (count : Nat) (s : Scene) :
    Option (Except SystemError Bytes × Scene) :=
  match c with
  | .target _ | .port .stdout | .port .stderr => some (.error badDescriptor, s)
  | .device .null => some (.ok [], s)
  | .device _ => some (.ok (List.replicate count 0), s)
  | .port .stdin =>
    let p := s.ports.input
    takeFrom p p.writerOpen alert count (fun bytes _ s =>
      s.note (if bytes.isEmpty then .childSeesEnd else .childReads bytes.length)) s
  | .source number =>
    let isWritten := s.isHeld (.target number) || (s.tapped? number).isSome
    takeFrom (s.pipe number) isWritten alert count
      (fun _ p s => s.setPipe number p) s
  | .file number =>
    match s.openFiles.lookup number with
    | none => some (.error badDescriptor, s)
    | some f =>
      if f.mode = .write || f.mode = .append then some (.error badDescriptor, s)
      else match s.files.get? f.path with
        | some (.file content _) =>
          let bytes := (content.drop f.offset).take count
          some (.ok bytes, s.setOpenFile number { f with offset := f.offset + bytes.length })
        | some .directory => some (.error PathError.isDirectory.error, s)
        | _ => some (.ok [], s)

/-- Takes at most so many bytes from a descriptor. No bytes are its end. One who is alert is
interrupted by signals. -/
def readFrom (fd count : Nat) (alert : Bool) : Doing (Except SystemError Bytes) := do
  match (← get).channel fd with
  | none => return .error badDescriptor
  | some c =>
    if c = .device .zero || c = .device .full then draw count
    attempt (readOnce c alert count)

/-! ## Descriptors -/

def setChannel (fd : Nat) (c : Option Channel) : Doing Unit := modify fun s =>
  (s.setChannel fd c).sweep

/-- A new pipe between processes that holds some bytes. Descriptors that lead to its two ends are
put in place before anything else is done. -/
def newPipe (held : Bytes) (lead : Nat → List (Nat × Channel)) : Doing Nat := modifyGet fun s =>
  let number := s.nextNumber
  let s := { s with
    nextNumber := number + 1, pipes := (number, { held := .ofBytes held }) :: s.pipes }
  (number, (lead number).foldl (fun s d => s.setChannel d.1 (some d.2)) s)

end Doing

end GitSteward.Host
