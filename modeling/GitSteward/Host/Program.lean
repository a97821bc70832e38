-- The programs of a machine by their names: running one of them, or one that it runs in turn.
import GitSteward.Host.Machine
import GitSteward.Host.Shell.Run
import GitSteward.Host.Tool.Entry
import GitSteward.Host.Tool.Listing
import GitSteward.Host.Tool.Git
import GitSteward.Host.Tool.Lines

namespace GitSteward.Host

/-- The name and value before the first word that makes no assignment, and that word on. -/
def splitAssignments (words : List String) : Assignments × List String :=
  match words with
  | [] => ([], [])
  | w :: rest =>
    match splitAssignment w with
    | some a =>
      let (others, command) := splitAssignments rest
      (a :: others, command)
    | none => ([], words)

/-- Gives a variable a value, where it stands or after the others. -/
def assignInPlace (env : Assignments) (a : String × String) : Assignments :=
  if env.any (·.1 = a.1) then env.map fun b => if b.1 = a.1 then a else b else env ++ [a]

/-- The options of `env`: whether it starts from nothing, the variables that are left out, and the
other arguments. -/
def envOptions (cleared : Bool) (left : List String) :
    List String → Except String (Bool × List String × List String)
  | "-i" :: rest | "-" :: rest => envOptions true left rest
  | "-u" :: name :: rest => envOptions cleared (name :: left) rest
  | arg :: rest =>
    match arg.toList with
    | '-' :: 'u' :: name => envOptions cleared (String.ofList name :: left) rest
    | '-' :: c :: _ => .error ("invalid option -- '" ++ c.toString ++ "'")
    | _ => .ok (cleared, left, arg :: rest)
  | [] => .ok (cleared, left, [])

/-- What one program says of another one that it cannot run. -/
def unrunnable (name program : String) : String :=
  if name = "setsid" then "setsid: failed to execute " ++ program
  else if name = "nohup" || name = "timeout" then
    name ++ ": failed to run command '" ++ program ++ "'"
  else name ++ ": '" ++ program ++ "'"

/-- Runs a program that is named by its path or looked for. `name` is who does so. -/
def runNamed (run : Image → Doing Nat) (name : String) (dir : Path) (order : Assignments)
    (program : String) (args : List String) : Doing Nat := do
  match loadProgram (← Doing.files) dir (.ofAssignments order) program args with
  | .ok image => run { image with order := some order }
  | .error (.path .denied) | .error .notProgram =>
    Doing.complain (unrunnable name program ++ ": Permission denied\n")
    return 126
  | .error (.path e) =>
    Doing.complain (unrunnable name program ++ ": " ++ systemErrorText e.number ++ "\n")
    return 127

/-- Prints the environment, or runs a program in a changed one. -/
def runEnv (run : Image → Doing Nat) (image : Image) (args : List String) : Doing Nat := do
  match envOptions false [] args with
  | .error why => Tool.misused "env" why 125
  | .ok (cleared, left, args) =>
    let (assignments, command) := splitAssignments args
    let before := if cleared then [] else image.assignments.filter (!left.contains ·.1)
    let env := assignments.foldl assignInPlace before
    match command with
    | [] =>
      Doing.say (String.join (env.map fun a => assignmentText a ++ "\n"))
      return 0
    | program :: args => runNamed run "env" image.dir env program args

/-- Prints variables. -/
def runPrintenv (image : Image) (args : List String) : Doing Nat := do
  if args.isEmpty then
    Doing.say (String.join (image.assignments.map fun a => assignmentText a ++ "\n"))
    return 0
  let mut code := 0
  for name in args do
    match image.assignments.lookup name with
    | some value => Doing.say (value ++ "\n")
    | none => code := 1
  return code

/-- Tells where programs are found. -/
def runWhich (image : Image) (args : List String) : Doing Nat := do
  let files ← Doing.files
  let mut code := 0
  for name in args do
    match Shell.Shelling.findProgram files image.dir ((image.env.get? "PATH").getD "") name with
    | .ok path => Doing.say (path ++ "\n")
    | .error _ => code := 1
  return code

/-- The programs that need only their arguments. -/
def plainTools : List (String × (List String → Doing Nat)) := [
  ("cat", Tool.cat), ("head", Tool.head), ("tail", Tool.tail), ("tr", Tool.tr),
  ("sleep", Tool.sleep), ("basename", Tool.basename), ("dirname", Tool.dirname),
  ("wc", Tool.wc), ("dd", Tool.dd), ("seq", Tool.seq), ("tee", Tool.tee), ("yes", Tool.yes),
  ("printf", Tool.printf), ("echo", Tool.echo), ("test", Tool.condition "test"),
  ("[", Tool.condition "["), ("kill", Tool.kill), ("git", Git.run),
  ("touch", Tool.touch), ("mkdir", Tool.mkdir), ("rmdir", Tool.rmdir), ("rm", Tool.rm),
  ("cp", Tool.transfer "cp" false), ("mv", Tool.transfer "mv" true), ("ln", Tool.ln),
  ("chmod", Tool.chmod), ("ls", Tool.ls), ("readlink", Tool.readlink),
  ("realpath", Tool.realpath),
  ("sort", Tool.sort), ("uniq", Tool.uniq), ("tac", Tool.tac), ("cut", Tool.cut),
  ("grep", Tool.grep), ("true", fun _ => return 0), ("false", fun _ => return 1)]

/-- What `timeout` is told: which signal to send after which time, and which program to run. -/
structure TimeLimit where
  signal : Nat := 15
  /-- after what more time the process is killed for good -/
  grace : Option Nat := none
  /-- whether the code of the process is told even then -/
  faithful : Bool := false
  span : Nat := 0
  command : List String := []

/-- Reads the arguments of `timeout`, or says what is wrong with them. -/
def TimeLimit.ofArgs (t : TimeLimit) : List String → Except String TimeLimit
  | "--preserve-status" :: rest => ofArgs { t with faithful := true } rest
  | "--foreground" :: rest => ofArgs t rest
  | "-s" :: name :: rest => match Tool.signalNumber name with
    | some signal => ofArgs { t with signal } rest
    | none => .error ("'" ++ name ++ "': invalid signal")
  | "-k" :: text :: rest => match Tool.span text with
    | some span => ofArgs { t with grace := some span } rest
    | none => .error ("invalid time interval '" ++ text ++ "'")
  | text :: command => match Tool.span text with
    | none => .error ("invalid time interval '" ++ text ++ "'")
    | some span => if command.isEmpty then .error "missing operand"
      else .ok { t with span, command }
  | [] => .error "missing operand"

/-- Runs a program for a while, and then sends it a signal. -/
def runTimeout (run : Image → Doing Nat) (image : Image) (args : List String) : Doing Nat := do
  match TimeLimit.ofArgs {} args with
  | .error why => Tool.misused "timeout" why 125
  | .ok t =>
    let pid ← Doing.fork id (runNamed run "timeout" image.dir
      image.assignments (t.command.headD "") (t.command.drop 1))
    match ← if t.span = 0 then Doing.reap false else Doing.reapWithin t.span with
    | some (_, stop) => return stop.code
    | none =>
      let send (signal : Nat) : Doing Unit := modify fun s =>
        let after := s.signalBelow s.current signal
        if Scene.surestSignals.contains signal then after.signal s.me signal else after
      send t.signal
      let ended ← match t.grace with
        | none => Doing.reap false
        | some span => match ← Doing.reapWithin span with
          | some found => pure (some found)
          | none =>
            send 9
            Doing.reap false
      let code := ((ended.filter (·.1 = pid)).map (·.2.code)).getD 124
      return if t.faithful || code = 137 then code else 124

/-- Does something while some signals do nothing. -/
def ignoring (signals : List Nat) (d : Doing Nat) : Doing Nat := do
  Doing.modifyProcess fun p => { p with ignored := signals ++ p.ignored }
  d

/-- Runs a program. Programs may run programs, up to some depth. -/
def runImage : Nat → Image → Doing Nat
  | 0, _ => Doing.hang
  | depth + 1, image => do
    Doing.modifyProcess fun p => { p with dir := image.dir, tool := image.tool }
    let args := image.argv.drop 1
    match image.tool with
    | "sh" | "dash" => Shell.main (runImage depth) image.argv image.assignments
    | "env" => runEnv (runImage depth) image args
    | "printenv" => runPrintenv image args
    | "which" => runWhich image args
    | "timeout" => runTimeout (runImage depth) image args
    | "nohup" | "setsid" | "nice" =>
      match args with
      | program :: args =>
        ignoring (if image.tool = "nohup" then [1] else []) (runNamed (runImage depth) image.tool
          image.dir image.assignments program args)
      | [] => Tool.misused image.tool "missing operand" 125
    | "pwd" => Doing.say (image.dir.text ++ "\n"); return 0
    | name =>
      match plainTools.lookup name with
      | some tool => tool args
      | none => return 1

/-- How deep programs may run programs. -/
def runDepth : Nat := 50

/-- Where the streams of a new process lead. -/
def descriptorsOf (l : Launch) : Descriptors :=
  let lead (fd : Nat) (stream : StreamName) (s : Stdio) : Nat × Channel :=
    (fd, match s with
      | .null => .device .null
      | .pipe | .inherited => .port stream)
  [lead 0 .stdin l.stdin, lead 1 .stdout l.stdout, lead 2 .stderr l.stderr]

/-- Starts the first process of a request, and gives its number. -/
def Machine.launch (m : Machine) (client : Nat) (l : Launch) (image : Image) : Nat × Machine :=
  m.start
    { pid := 0, parent := serverPid, client, dir := image.dir, descriptors := descriptorsOf l }
    (runImage runDepth image)

end GitSteward.Host
