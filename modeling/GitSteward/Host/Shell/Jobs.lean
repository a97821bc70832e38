-- The children of a shell: starting them, waiting for them, and the signals that come meanwhile.
import GitSteward.Host.Shell.State
import GitSteward.Host.Tool

namespace GitSteward.Host.Shell

namespace Shelling

/-! ## Children -/

/-- The descriptors that a shell keeps for itself begin here. Its children do without them. -/
def ownDescriptor : Nat := 1000

/-- A process without the descriptors that a shell has kept for itself. -/
def withoutOwn (p : Process) : Process :=
  { p with descriptors := p.descriptors.filter (·.1 < ownDescriptor) }

/-- A process with a descriptor that leads somewhere. -/
def withChannel (fd : Nat) (c : Channel) (p : Process) : Process :=
  { p with descriptors := Scene.leading fd (some c) p.descriptors }

/-- A process that another one has started to go on by itself: the keys that stop a program do
nothing to it. -/
def detached (p : Process) : Process := { p with ignored := 2 :: 3 :: p.ignored }

/-- What a shell comes to, as the code of its process. -/
def codeOf : Except Leave Unit × State → Nat
  | (.error (.exit code), _) => code
  | (.error .broken, _) => 2
  | (_, s) => s.status

/-- Starts a child that is a shell as well, and gives its number. -/
def inChild (change : Process → Process) (action : Shelling Unit) : Shelling Nat := do
  let child := (← shell).forked
  modifyShell fun s => { s with jobs := s.jobs.filter fun j => !(j.isDone && j.asked) }
  lift (Doing.fork (fun p => change { withoutOwn p with handled := [] }) do
    return codeOf (← action.run.run child))

/-! ## Waiting -/

/-- What is told of a signal that ended a process, unless it is one that ends processes day by
day. -/
def signalText (signal : Nat) : Option String :=
  if signal = 2 || signal = 13 then none
  else match ["Hangup", "Interrupt", "Quit", "Illegal instruction", "Trace/breakpoint trap",
      "Aborted", "Bus error", "Floating point exception", "Killed", "User defined signal 1",
      "Segmentation fault", "User defined signal 2", "Broken pipe", "Alarm clock", "Terminated",
      "Stack fault", "Child exited", "Continued", "Stopped (signal)", "Stopped",
      "Stopped (tty input)", "Stopped (tty output)", "Urgent I/O condition",
      "CPU time limit exceeded", "File size limit exceeded", "Virtual timer expired",
      "Profiling timer expired", "Window changed", "I/O possible", "Power failure",
      "Bad system call"][signal - 1]? with
    | some text => some text
    | none => some ("Real-time signal " ++ toString (signal - 34))

/-- What is told of a job. -/
def jobState (j : ShellJob) : String :=
  if !j.isDone then "Running"
  else match j.last.2 with
    | some (.killed signal) =>
      (signalText signal).getD (if signal = 2 then "Interrupt" else "Broken pipe")
    | some stop => if stop.code = 0 then "Done" else "Done(" ++ toString stop.code ++ ")"
    | none => "Running"

/-- Tells of a signal that ended a process. -/
def tellSignal (stop : Stop) : Shelling Unit := do
  if let .killed signal := stop then
    if let some text := signalText signal then lift (Doing.complain (text ++ "\n"))

/-- The members of a job once one of them has ended. -/
def withEnd (pid : Nat) (stop : Stop) (members : List (Nat × Option Stop)) :
    List (Nat × Option Stop) :=
  members.map fun m => if m.1 = pid then (pid, some stop) else m

/-- Notes that a process has ended that goes on by itself. -/
def noteEnd (pid : Nat) (stop : Stop) : Shelling Unit :=
  modifyShell fun s => { s with
    jobs := s.jobs.map fun j => { j with members := withEnd pid stop j.members } }

/-- More processes than a shell ever waits for. -/
def waitLimit : Nat := 1_000_000_000_000

/-- Notes which processes that go on by themselves have ended. -/
def seeEnds : Nat → Shelling Unit
  | 0 => return ()
  | fuel + 1 => do
    if let some (pid, stop) ← lift (Doing.reapWithin 0) then
      noteEnd pid stop
      seeEnds fuel

/-- Waits until all members of a job have ended, and tells of signals that ended them. Others that
end meanwhile are noted. -/
def awaitMembers : Nat → List (Nat × Option Stop) → Shelling (List (Nat × Option Stop))
  | 0, members => return members
  | fuel + 1, members => do
    if members.all (·.2.isSome) then return members
    match ← lift (Doing.reap false) with
    | none => return members
    | some (pid, stop) =>
      if members.any (·.1 = pid) then
        tellSignal stop
        awaitMembers fuel (withEnd pid stop members)
      else
        noteEnd pid stop
        awaitMembers fuel members

/-- Waits for the processes of a command, and gives the code of the last one. -/
def awaitCode (pids : List Nat) : Shelling Nat := do
  let members ← awaitMembers waitLimit (pids.map (·, none))
  return (((members.getLast?).bind (·.2)).map Stop.code).getD 0

/-- Waits for the processes of a command. The code of the last one is that of the command. -/
def await (pids : List Nat) : Shelling Unit := do setStatus (← awaitCode pids)

/-- The code of a command that a signal has interrupted. -/
def interruptedCode : Doing Nat := do
  return 128 + ((← Doing.process).pending.headD 0)

/-- Waits until a job of some number has ended, or until all have. Whoever waits for one tells of a
signal that ended it. -/
def awaitJobs (wanted : Option Nat) : Nat → Shelling Nat
  | 0 => return 0
  | fuel + 1 => do
    let jobs := (← shell).jobs
    let meant (j : ShellJob) : Bool := wanted.all (j.last.1 = ·)
    let left := jobs.filter fun j => !j.isDone && meant j
    if left.isEmpty then
      let asked := jobs.map fun j => if meant j then { j with asked := true } else j
      modifyShell fun s => { s with jobs := asked }
      return match wanted with
        | none => 0
        | some pid => (((jobs.find? (·.last.1 = pid)).bind (·.last.2)).map Stop.code).getD 127
    else match ← lift (Doing.reap true) with
      | none => lift interruptedCode
      | some (pid, stop) =>
        if wanted.isSome && left.any (·.members.any (·.1 = pid)) then tellSignal stop
        noteEnd pid stop
        awaitJobs wanted fuel

/-! ## Signals -/

/-- The number of a signal for a trap, zero standing for the end of the shell. -/
def trapNumber (name : String) : Option Nat :=
  if name = "EXIT" then some 0 else Tool.signalNumber name

/-- The name of a signal in a trap. -/
def trapName (signal : Nat) : String :=
  if signal = 0 then "EXIT"
  else match WaitStatus.signalNames[signal - 1]? with
    | some name => String.ofList (name.toList.drop 3)
    | none => toString signal

/-- A text in single quotes, as the shell would read it. -/
def inQuotes (text : String) : String :=
  "\x27" ++ "\x27\x22\x27\x22\x27".intercalate (text.splitOn "\x27") ++ "\x27"

/-- Says what is to be run on a signal: nothing in particular, nothing at all, or a script. -/
def setTrap (action : Option String) (signal : Nat) : Shelling Unit := do
  let s ← shell
  if signal ≠ 0 && !s.stubborn.contains signal then
    lift (Doing.modifyProcess fun p =>
      let ignored := p.ignored.filter (· ≠ signal)
      let handled := p.handled.filter (· ≠ signal)
      match action with
      | none => { p with ignored, handled }
      | some "" => { p with ignored := signal :: ignored, handled }
      | some _ => { p with ignored, handled := signal :: handled })
  modifyShell fun s => { s with
    traps := (action.map (signal, ·)).toList ++ s.traps.filter (·.1 ≠ signal) }

def builtinTrap (args : List String) : Shelling Unit := do
  setStatus 0
  let set (action : Option String) (names : List String) : Shelling Unit := do
    for name in names do
      match trapNumber name with
      | some signal => setTrap action signal
      | none =>
        lift (Doing.complain ("trap: " ++ toText name ++ ": bad trap\n"))
        return ← setStatus 1
  match if args.head? = some "--" then args.drop 1 else args with
  | [] =>
    for t in (← shell).traps.mergeSort fun a b => a.1 ≤ b.1 do
      put (widen ("trap -- " ++ inQuotes t.2 ++ " " ++ trapName t.1 ++ "\n"))
  | [name] => set none [name]
  | first :: names =>
    if first.toList.all Char.isDigit && (trapNumber first).isSome then set none (first :: names)
    else set (if first = "-" then none else some first) names

end Shelling

end GitSteward.Host.Shell
