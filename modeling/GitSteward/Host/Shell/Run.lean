-- Running the commands of a script. A shell that does nothing after a command lets the program of
-- that command take its place, and otherwise waits for a child that runs it.
import GitSteward.Host.Shell.Builtin
import GitSteward.Host.Shell.Redirection

namespace GitSteward.Host.Shell

/-- How programs are run. -/
abbrev Runner := Image → Doing Nat

namespace Shelling

/-! ## Programs -/

/-- Lets a program take the place of the shell, and ends with its code. -/
def become (runner : Runner) (image : Image) : Shelling Unit := lift do
  Doing.modifyProcess fun p => { withoutOwn p with handled := [], pending := [] }
  Doing.exit (← runner image)

/-- What is said of a program that cannot be run, and the code of that. -/
def runProblem : RunError → String × Nat
  | .path .missing | .path .notDirectory => ("not found", 127)
  | .path e => (systemErrorText e.number, 126)
  | .notProgram => ("Permission denied", 126)

/-- Runs the program at a path in place of the shell. A file that is no program is taken for a
script. -/
def execute (runner : Runner) (path : String) (words : List String) : Shelling Unit := do
  let args := words.map toText
  let files ← lift Doing.files
  let dir := (← lift Doing.process).dir
  let order ← handedOver
  let env := Environment.ofAssignments order
  let image := match load files dir env scriptDepth path args with
    | .error .notProgram =>
      load files dir env scriptDepth "/bin/sh" ("/bin/sh" :: path :: args.drop 1)
    | other => other
  match image with
  | .ok image => become runner { image with order := some order }
  | .error e =>
    let (problem, code) := runProblem e
    complain (words.headD "" ++ ": " ++ problem)
    exit code

/-- What is said of a command that is not found. -/
def unfound (denied : Bool) (name : String) : Shelling Unit :=
  complain (name ++ if denied || name.isEmpty then ": Permission denied" else ": not found")

/-- Runs a command in place of the shell. -/
def executeNamed (runner : Runner) (words : List String) : Shelling Unit := do
  let name := words.headD ""
  match ← programOf (← searchPath) (toText name) with
  | .ok path => execute runner path words
  | .error denied =>
    unfound denied name
    exit (if denied then 126 else 127)

/-- Looks for the program of a command before its process is started. -/
def lookAhead : Command → Shelling Unit
  | .simple _ _ ([.text name false] :: _) _ => do
    if isName name then let _ ← meaningOf name
  | _ => return ()

/-- Runs a command that is neither a function nor a builtin one. -/
def external (runner : Runner) (last : Bool) (words : List String) : Shelling Unit := do
  let name := words.headD ""
  match ← programOf (← searchPath) (toText name) with
  | .error denied =>
    unfound denied name
    setStatus 127
  | .ok path =>
    remember name
    if last && !(← shell).hasTraps then execute runner path words
    else await [← inChild id (execute runner path words)]

/-! ## What surrounds commands -/

/-- Does something whose code is looked at by another command. -/
def testing (tested : Bool) (action : Shelling Unit) : Shelling Unit := do
  let before := (← shell).tested
  modifyShell fun s => { s with tested := tested }
  try action
  catch e =>
    modifyShell fun s => { s with tested := before }
    throw e
  modifyShell fun s => { s with tested := before }

/-- Leaves the script if a command has failed, the options ask for that and no other command looks
at the code. -/
def checkFailure : Shelling Unit := do
  let s ← shell
  if s.status ≠ 0 && !s.tested && s.has "errexit" then exit s.status

/-- Runs what is to be run on a signal. The code of the last command before it stays. -/
def withTrapStatus (status : Nat) (action : Shelling Unit) : Shelling Unit := do
  let before := (← shell).trapStatus
  modifyShell fun s => { s with trapStatus := some status }
  try action
  catch e =>
    modifyShell fun s => { s with trapStatus := before }
    throw e
  modifyShell fun s => { s with trapStatus := before, status }

/-- How often loops turn until a moment has passed. A shell that has turned often gets slow. -/
def turnsPerMoment (turns : Nat) : Nat := if turns < 30000 then 300 else 30

/-- One turn of a loop. The result tells whether there are to be more. -/
def turn (body : Shelling Unit) : Shelling Bool := do
  modifyShell fun s => { s with turns := s.turns + 1 }
  let turns := (← shell).turns
  if turns % turnsPerMoment turns = 0 then lift (Doing.pass millisecond)
  try
    body
    return true
  catch e =>
    match e with
    | .breakLoop 0 => return false
    | .continueLoop 0 => return true
    | .breakLoop (n + 1) => throw (.breakLoop n)
    | .continueLoop (n + 1) => throw (.continueLoop n)
    | e => throw e

/-- Runs a loop. -/
def looping (loop : Shelling Unit) : Shelling Unit := do
  let leave : Shelling Unit := modifyShell fun s => { s with loops := s.loops - 1 }
  modifyShell fun s => { s with loops := s.loops + 1 }
  try loop
  catch e =>
    leave
    throw e
  leave

/-- Gives values to variables. -/
def assignAll (run : Command → Shelling String) (exported : Bool) :
    List (String × Word) → Shelling (List String)
  | [] => return []
  | (name, w) :: rest => do
    let value ← expandText run w
    setVariable name value exported
    return (name ++ "=" ++ value) :: (← assignAll run exported rest)

/-- Does something with variables that get their old values back afterwards. -/
def withLocals (names : List String) (action : Shelling Unit) : Shelling Unit := do
  if names.isEmpty then action
  else
    let vs := (← shell).vars
    let frame := names.map fun name => (name, vs.find? (·.name = name))
    let restore : Shelling Unit :=
      modifyShell fun s => { s with vars := restoreLocals frame s.vars }
    try action
    catch e =>
      restore
      throw e
    restore

/-- Writes a command that is about to be run to where errors went before its redirections, if the
options ask for that. What stands before it is up to a variable. -/
def trace (run : Command → Shelling String) (errors : Option Channel) (words : List String) :
    Shelling Unit := do
  if (← shell).has "xtrace" && !words.isEmpty then
    if let some c := errors then
      let sign := (← get? "PS4").getD ""
      let sign ← match documentWord sign with
        | .ok w => expandText run w
        | .error _ => pure sign
      let bytes := widen (sign ++ " ".intercalate words ++ "\n")
      lift do
        let _ ← Doing.writeAll c bytes.length bytes

/-- Shows the lines of a script up to one, if the options ask for that. The result are the lines
after it. -/
def showLines (upTo : Nat) (unshown : Remaining) : Shelling Remaining := do
  let lines := (unshown.rest.splitOn '\n').take (upTo + 1 - unshown.line)
  let length := lines.foldl (fun n line => n + line.length + 1) 0
  if (← shell).has "verbose" then
    lift do
      let _ ← Doing.writeTo 2 (widen (String.ofList (unshown.rest.take length)))
  return { rest := unshown.rest.drop length, line := unshown.line + lines.length }

/-- How many functions may be run within each other. -/
def depthLimit : Nat := 1000

/-- Runs a function with arguments of its own. -/
def calling (args : List String) (body : Shelling Unit) : Shelling Unit := do
  let s ← shell
  if depthLimit ≤ s.locals.length then
    give ("Maximum function recursion depth (" ++ toString depthLimit ++ ") reached")
  modifyShell fun t => { t with
    args
    locals := [] :: t.locals
    loops := 0
    optionIndex := 1
    optionOffset := 0 }
  let leave : Shelling Unit := modifyShell fun t => { t with
    args := s.args
    optionIndex := s.optionIndex
    optionOffset := s.optionOffset
    loops := s.loops
    vars := restoreLocals (t.locals.headD []) t.vars
    locals := t.locals.drop 1 }
  try body
  catch e =>
    if e ≠ .returned then
      leave
      throw e
  leave

/-! ## Pipes of the shell -/

/-- The descriptors under which a shell keeps the two ends of a pipe. -/
def ownSource (number : Nat) : Nat := ownDescriptor + 2 * number

def ownTarget (number : Nat) : Nat := ownDescriptor + 2 * number + 1

/-- A new pipe, both ends of which the shell keeps for itself. -/
def ownPipe : Shelling Nat :=
  lift (Doing.newPipe [] fun n => [(ownSource n, .source n), (ownTarget n, .target n)])

def close (fd : Nat) : Shelling Unit := lift (Doing.setChannel fd none)

/-- What a child writes. -/
def captured (action : Shelling Unit) : Shelling Bytes := do
  let number ← ownPipe
  let pid ← inChild (withChannel 1 (.target number)) action
  close (ownTarget number)
  let bytes ← lift (Tool.readAll (ownSource number))
  close (ownSource number)
  let code ← awaitCode [pid]
  modifyShell fun s => { s with outputStatus := code }
  return match bytes with
    | .ok bytes => bytes
    | .error _ => []

/-! ## Commands -/

/-- Whether the first word of a command makes it a special one. -/
def isSpecial (words : List String) : Bool := words.head?.any specialBuiltins.contains

/-- The line up to which a script has been read after one of its lines. -/
def lineAfter (r : Remaining) : Nat := if r.rest.isEmpty then r.line else r.line + 1 + r.taken

/-- Where the text of a file of commands is. A name without a slash is looked for. -/
def sourceOf (file : String) : Shelling (Option String) := do
  if file.contains '/' then return some (toText file)
  let files ← lift Doing.files
  let dir := (← lift Doing.process).dir
  return (candidates (← searchPath) (toText file)).find? fun path =>
    match files.find dir path with
    | .ok (_, .file _ _) => true
    | _ => false

mutual

/-- Runs a command. `last` tells that the shell does nothing after it. -/
def command (runner : Runner) : Nat → Bool → Command → Shelling Unit
  | 0, _, _ => lift Doing.hang
  | fuel + 1, last, c => do
    if (← shell).has "noexec" then return ()
    match c with
    | .nothing => pure ()
    | .simple line assignments words redirections => do
      modifyShell fun s => { s with line, outputStatus := 0 }
      let words ← expandWords (output runner fuel) words
      simple runner fuel last assignments words redirections
      dealWithSignals runner fuel
      checkFailure
    | .group c => command runner fuel last c
    | .sequence first second => do
      command runner fuel false first
      command runner fuel last second
    | .conjunction first second => do
      testing true (command runner fuel false first)
      if (← shell).status = 0 then command runner fuel last second
    | .disjunction first second => do
      testing true (command runner fuel false first)
      if (← shell).status ≠ 0 then command runner fuel last second
    | .negation c => do
      testing true (command runner fuel false c)
      setStatus (if (← shell).status = 0 then 1 else 0)
    | .pipeline left right => do
      await (← startMembers runner fuel false none (left :: right.members))
      dealWithSignals runner fuel
      checkFailure
    | .background c => do
      let pids ← startMembers runner fuel true none c.members
      modifyShell fun s => { s with
        jobs := s.jobs ++ [{ members := pids.map (·, none) }]
        lastBackground := pids.getLast?
        status := 0 }
    | .subshell c => do
      if last && !(← shell).hasTraps then command runner fuel true c
      else await [← inChild id (ending runner fuel (command runner fuel true c))]
      dealWithSignals runner fuel
      checkFailure
    | .choice condition yes no => do
      testing true (command runner fuel false condition)
      if (← shell).status = 0 then command runner fuel last yes
      else match no with
        | .nothing => setStatus 0
        | no => command runner fuel last no
    | .loop untilTrue condition body => looping (turns runner fuel untilTrue condition body 0)
    | .each name words body => do
      let values ← match words with
        | some ws => expandWords (output runner fuel) ws
        | none => pure (← shell).args
      if values.isEmpty then setStatus 0
      looping (eachValue runner fuel name body values)
    | .select w arms => do
      let text ← expandText (output runner fuel) w
      selectArm runner fuel last text arms
    | .define name body => do
      modifyShell fun s => { s with functions := (name, body) :: s.functions }
      setStatus 0
    | .redirected c rs =>
      redirected (output runner fuel) false rs checkFailure (command runner fuel false c)
    | .at line c => do
      modifyShell fun s => { s with line }
      command runner fuel last c
    dealWithSignals runner fuel

/-- Runs what is to be run on the signals that have come. -/
def dealWithSignals (runner : Runner) : Nat → Shelling Unit
  | 0 => return ()
  | fuel + 1 => do
    let pending ← lift Doing.takePending
    for signal in pending.mergeSort (· ≤ ·) do
      if let some action := (← shell).traps.lookup signal then
        withTrapStatus (← shell).status (script runner fuel false false action)

/-- Runs the last thing that a shell runs, and then what is to be run at its end. -/
def ending (runner : Runner) : Nat → Shelling Unit → Shelling Unit
  | 0, _ => lift Doing.hang
  | fuel + 1, action => do
    try action
    catch e =>
      match e with
      | .exit code => setStatus code
      | .broken => setStatus 2
      | _ => pure ()
    let s ← shell
    if let some trap := s.traps.lookup 0 then
      modifyShell fun s => { s with traps := s.traps.filter (·.1 ≠ 0) }
      withTrapStatus s.status (script runner fuel false false trap)

/-- Starts commands whose outputs and inputs are joined, and gives the numbers of their processes.
Those that go on by themselves have no input. -/
def startMembers (runner : Runner) : Nat → Bool → Option Nat → List Command → Shelling (List Nat)
  | 0, _, _, _ | _, _, _, [] => return []
  | fuel + 1, background, input, c :: rest => do
    if !background then lookAhead c
    let output ← if rest.isEmpty then pure none else some <$> ownPipe
    let change (p : Process) : Process :=
      let p := match input with
        | some number => withChannel 0 (.source number) p
        | none => if background then withChannel 0 (.device .null) p else p
      let p := match output with
        | some number => withChannel 1 (.target number) p
        | none => p
      if background then detached p else p
    let pid ← inChild change do
      if background then modifyShell fun s => { s with stubborn := 2 :: 3 :: s.stubborn }
      ending runner fuel (command runner fuel true c)
    if let some number := input then close (ownSource number)
    if let some number := output then close (ownTarget number)
    return pid :: (← startMembers runner fuel background output rest)

/-- Runs the body of a loop as long as its condition says so. The code of the last turn, or
zero, is that of the loop. -/
def turns (runner : Runner) : Nat → Bool → Command → Command → Nat → Shelling Unit
  | 0, _, _, _, _ => lift Doing.hang
  | fuel + 1, untilTrue, condition, body, code => do
    let goesOn ← turn do
      testing true (command runner fuel false condition)
      if ((← shell).status = 0) = untilTrue then
        setStatus code
        throw (.breakLoop 0)
      command runner fuel false body
    if goesOn then turns runner fuel untilTrue condition body (← shell).status

/-- Runs the body of a loop for each value. -/
def eachValue (runner : Runner) : Nat → String → Command → List String → Shelling Unit
  | 0, _, _, _ => lift Doing.hang
  | _ + 1, _, _, [] => return ()
  | fuel + 1, name, body, value :: rest => do
    setVariable name value false
    if ← turn (command runner fuel false body) then eachValue runner fuel name body rest

/-- Runs the first arm with a pattern that matches. -/
def selectArm (runner : Runner) :
    Nat → Bool → String → List (List Word × Command) → Shelling Unit
  | 0, _, _, _ => lift Doing.hang
  | _ + 1, _, _, [] => setStatus 0
  | fuel + 1, last, text, (ps, body) :: rest => do
    let found ← ps.anyM fun w => do
      return (← expandPattern (output runner fuel) w).fits text.toList
    match found, body with
    | false, _ => selectArm runner fuel last text rest
    | true, .nothing => setStatus 0
    | true, body => command runner fuel last body

/-- Runs a simple command whose words are expanded. What is assigned in front of a special command,
or of none, stays. -/
def simple (runner : Runner) : Nat → Bool → List (String × Word) → List String →
    List Redirection → Shelling Unit
  | 0, _, _, _, _ => lift Doing.hang
  | fuel + 1, last, assignments, words, rs => do
    let run := output runner fuel
    let errors := (← lift get).channel 2
    let stays := words.isEmpty || isSpecial words
    match words with
    | "exec" :: args => do
      if !(← redirectAll run rs) then throw .broken
      let assigned ← assignAll run true assignments
      trace run errors (assigned ++ words)
      setStatus 0
      if !args.isEmpty then named "exec" (executeNamed runner args)
    | words =>
      redirected run (isSpecial words) rs (pure ()) do
        withLocals (if stays then [] else assignments.map (·.1)) do
          let assigned ← assignAll run (!words.isEmpty) assignments
          trace run errors (assigned ++ words)
          if words.isEmpty then setStatus (← shell).outputStatus
          called runner fuel last (isSpecial words) true words

/-- Runs a function, a builtin command or a program. -/
def called (runner : Runner) : Nat → Bool → Bool → Bool → List String → Shelling Unit
  | 0, _, _, _, _ => lift Doing.hang
  | fuel + 1, last, special, functions, words => do
    let known := (← shell).functions
    let function := if functions then known.lookup (words.headD "") else none
    match words, function with
    | [], _ => return ()
    | _ :: args, some body => calling args (command runner fuel false body)
    | "eval" :: args, _ => guarded special "eval" do
      script runner fuel false false (" ".intercalate args)
    | ["."], _ => setStatus 0
    | "." :: file :: _, _ => guarded special "." do
      match ← sourceOf file with
      | none => give (file ++ ": not found")
      | some path =>
        match (← lift Doing.files).read (← lift Doing.process).dir path with
        | .error _ => give ("cannot open " ++ file ++ ": No such file")
        | .ok content =>
          testing false do
            try named (ofText path) (script runner fuel false true (narrow content))
            catch e =>
              if e ≠ .returned then throw e
              checkFailure
    | "exec" :: args, _ =>
      if !args.isEmpty then named "exec" (executeNamed runner args)
    | "command" :: "-v" :: names, _ => reporting false "command" do
      if let name :: _ := names then builtinCommandV name
    | "command" :: "-V" :: names, _ => reporting false "command" (builtinType (names.take 1))
    | "command" :: "-p" :: words, _ | "command" :: "--" :: words, _ | "command" :: words, _ =>
      match words with
      | [] => setStatus 0
      | word :: rest =>
        match word.toList with
        | '-' :: c :: _ =>
          guarded false "command" (give ("Illegal option -" ++ c.toString))
        | _ => called runner fuel last false false (word :: rest)
    | name :: args, _ =>
      if plainBuiltins.contains name then builtin special name args
      else external runner last words

/-- What a command writes, without the ends of lines at its end. -/
def output (runner : Runner) : Nat → Command → Shelling String
  | 0, _ => lift Doing.hang
  | fuel + 1, c => do
    let bytes ← captured (ending runner fuel (testing false (command runner fuel true c)))
    let written := (narrow (bytes.filter (· ≠ 0))).toList
    return String.ofList (written.reverse.dropWhile (· = '\n')).reverse

/-- Runs a script, line by line. `last` tells that the shell does nothing after it. Only those in
files are shown as they are read, if the options ask for that. -/
def script (runner : Runner) : Nat → Bool → Bool → String → Shelling Unit
  | 0, _, _, _ => lift Doing.hang
  | fuel + 1, last, isFile, text => do
    let unshown := if isFile then some { rest := text.toList } else none
    lines runner fuel last true unshown { rest := text.toList }

/-- Runs the lines that are left of a script. The code is zero if there are none at all. Of a script
in a file, some lines are still to be shown. -/
def lines (runner : Runner) : Nat → Bool → Bool → Option Remaining → Remaining → Shelling Unit
  | 0, _, _, _, _ => lift Doing.hang
  | fuel + 1, last, first, unshown, rest => do
    match nextLine rest with
    | .error e =>
      let _ ← unshown.mapM (showLines e.line)
      giveReading e.line e.text
    | .ok (none, after) =>
      let _ ← unshown.mapM (showLines after.line)
      if first then setStatus 0
    | .ok (some c, after) => do
      let unshown ← unshown.mapM (showLines (after.line + after.taken))
      modifyShell fun s => { s with lastLine := lineAfter after }
      command runner fuel (last && after.rest.isEmpty) c
      lines runner fuel last false unshown after

end

/-- How deep commands may be nested, and how often loops may turn. -/
def commandFuel : Nat := 1_000_000_000_000

end Shelling

/-- What the arguments of a shell ask for. -/
structure Invocation where
  /-- the names of the options that are set -/
  options : List String := []
  /-- whether the first argument is a script itself -/
  direct : Bool := false
  args : List String := []
deriving Inhabited

/-- Sets an option, or unsets it. -/
def Invocation.set (i : Invocation) (on : Bool) (name : String) : Invocation :=
  let others := i.options.filter (· ≠ name)
  { i with options := if on then name :: others else others }

/-- Reads the letters of options, and the arguments after them. One letter stands for a name, which
is the next argument. The error is an option that there is none of. -/
def Invocation.withLetters (i : Invocation) (on : Bool) : List Char → List String →
    Except String (Invocation × List String)
  | [], rest => .ok (i, rest)
  | 'o' :: cs, name :: rest =>
    if shellOptions.any (·.1 = name) then (i.set on name).withLetters on cs rest
    else .error ("-o " ++ name)
  | 'o' :: cs, [] => i.withLetters on cs []
  | 'c' :: cs, rest => Invocation.withLetters { i with direct := true } on cs rest
  | 'l' :: cs, rest => i.withLetters on cs rest
  | c :: cs, rest =>
    match optionNamed? c with
    | some name => (i.set on name).withLetters on cs rest
    | none => .error ("-" ++ c.toString)

/-- Reads the arguments of a shell. -/
def Invocation.ofArgs (i : Invocation) : Nat → List String → Except String Invocation
  | 0, args => .ok { i with args }
  | _ + 1, [] => .ok i
  | fuel + 1, a :: rest =>
    match a.toList with
    | ['-', '-'] | ['-'] => .ok { i with args := rest }
    | '-' :: letters => do
      let (i, rest) ← i.withLetters true letters rest
      i.ofArgs fuel rest
    | '+' :: letters => do
      let (i, rest) ← i.withLetters false letters rest
      i.ofArgs fuel rest
    | _ => .ok { i with args := a :: rest }

/-- The directory that a shell begins in, by the path that it is handed if that leads there. -/
def placeOf (files : Files) (dir : Path) (handed : Assignments) : String :=
  match handed.lookup "PWD" with
  | some place =>
    if place.startsWith "/" && (files.findDirectory dir place).toOption = some dir then place
    else dir.text
  | none => dir.text

/-- Runs the shell with its arguments: a command, or the name of a script, and the arguments of
that. -/
def main (runner : Runner) (argv : List String) (handed : Assignments) : Doing Nat := do
  let s ← get
  let me := s.me
  let name := argv.headD "sh"
  let place := placeOf s.files me.dir handed
  let start (name : String) (args : List String) (options : List String) (last isFile : Bool)
      (text : String) : Doing Nat := do
    let shell : State := {
      name := ofText name
      args := args.map ofText
      vars := variablesOf handed place me.parent
      pid := me.pid
      place := ofText place
      stubborn := me.ignored
      options }
    let action := Shelling.ending runner Shelling.commandFuel
      (Shelling.script runner Shelling.commandFuel last isFile text)
    return Shelling.codeOf (← action.run.run shell)
  match (Invocation.mk [] false []).ofArgs argv.length (argv.drop 1) with
  | .error option =>
    Doing.complain (name ++ ": 0: Illegal option " ++ option ++ "\n")
    return 2
  | .ok { options, direct := true, args := text :: rest } =>
    start (rest.headD name) (rest.drop 1) options true false (ofText text)
  | .ok { direct := true, args := [], .. } =>
    Doing.complain (name ++ ": 0: -c requires an argument\n")
    return 2
  | .ok { options, direct := false, args } =>
    if options.contains "stdin" || args.isEmpty then
      let options := "stdin" :: options
      match ← Tool.readAll 0 with
      | .ok content => start name args options false true (narrow content)
      | .error _ => return 0
    else
      let file := args.headD ""
      match s.files.read me.dir file with
      | .ok content => start file (args.drop 1) options false true (narrow content)
      | .error .isDirectory => return 0
      | .error _ =>
        Doing.complain (name ++ ": 0: cannot open " ++ file ++ ": No such file\n")
        return 2

end GitSteward.Host.Shell
