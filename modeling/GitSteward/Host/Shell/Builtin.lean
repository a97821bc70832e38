-- The builtin commands of a shell, those left out that run scripts.
import GitSteward.Host.Shell.Expansion
import GitSteward.Host.Shell.Jobs
import GitSteward.Host.Shell.Reader

namespace GitSteward.Host.Shell

namespace Shelling

/-! ## Reading a line -/

/-- Reads a line byte by byte. The result tells whether it was ended. -/
def readLine (raw : Bool) : Nat → List (Char × Bool) → Shelling (List (Char × Bool) × Bool)
  | 0, done => return (done.reverse, false)
  | fuel + 1, done => do
    let next : Shelling (Option UInt8) := do
      match ← lift (Doing.readFrom 0 1 true) with
      | .ok (b :: _) => return some b
      | _ => return none
    match ← next with
    | none => return (done.reverse, false)
    | some 10 => return (done.reverse, true)
    | some 92 =>
      if raw then readLine raw fuel (('\\', true) :: done)
      else match ← next with
        | none => return (done.reverse, false)
        | some 10 => readLine raw fuel done
        | some b => readLine raw fuel ((Char.ofNat b.toNat, true) :: done)
    | some 0 => readLine raw fuel done
    | some b => readLine raw fuel ((Char.ofNat b.toNat, false) :: done)

/-- Whether a character of a line divides it, and whether it is a blank that does. -/
def divides (separators : List Char) (c : Char × Bool) : Bool := !c.2 && separators.contains c.1

def divideBlank (separators : List Char) (c : Char × Bool) : Bool :=
  divides separators c && isBlank c.1

/-- The last part of a line: all of it up to the separators at its end, if there are only blanks
among these or one other in addition. -/
def lastPart (separators : List Char) (line : List (Char × Bool)) : List (Char × Bool) :=
  let word := line.takeWhile (!divides separators ·)
  match line.drop word.length with
  | [] => word
  | c :: rest =>
    let (stop, _) := (rest.zipIdx (word.length + 1)).foldl (fun (stop, blank) (d, i) =>
      if d.2 then (stop, false)
      else if divideBlank separators d then (stop <|> some i, blank)
      else (if divides separators d && blank then stop else none, false))
      (some word.length, isBlank c.1)
    line.take (stop.getD line.length)

/-- Gives the parts of a line to variables, the last of which takes all that is left. -/
def assignLine (separators : List Char) : List String → List (Char × Bool) → Shelling Unit
  | [], _ => return ()
  | name :: rest, line => do
    let line := line.dropWhile (divideBlank separators)
    let part := if rest.isEmpty then lastPart separators line
      else line.takeWhile (!divides separators ·)
    setVariable name (String.ofList (part.map (·.1))) false
    assignLine separators rest (match line.drop part.length with
      | [] => []
      | c :: after =>
        if isBlank c.1 then
          match after.dropWhile (divideBlank separators) with
          | d :: after => if divides separators d then after else d :: after
          | [] => []
        else after)

/-- More bytes than a line has. -/
def lineLimit : Nat := 1_000_000_000_000

def builtinRead (args : List String) : Shelling Unit := do
  let (options, names) ← takeOptions "r" "p" args
  let raw := options.any (·.1 = 'r')
  if names.isEmpty then
    complain "arg count"
    setStatus 2
  else
    let (line, ended) ← readLine raw lineLimit []
    assignLine (← separators) names line
    setStatus (if ended then 0 else 1)

/-! ## Variables -/

/-- Writes variables as commands that would set them. -/
def listVariables (start : String) (which : Variable → Bool) : Shelling Unit := do
  for v in ((← shell).vars.filter which).mergeSort fun a b => a.name ≤ b.name do
    putLine (start ++ v.name ++ (v.value.map fun value => "=" ++ inQuotes value).getD "")

/-- Marks variables, after giving them values where there are some. -/
def builtinMark (name : String) (marked : Variable → Bool) (mark : Variable → Variable)
    (args : List String) : Shelling Unit := do
  let (_, args) ← takeOptions "p" "" args
  if args.isEmpty then listVariables (name ++ " ") marked
  for a in args do
    match splitAssignment a with
    | some (name, value) => setVariable name value false; markVariable name mark
    | none => markVariable a mark

def builtinLocal (args : List String) : Shelling Unit := do
  if (← shell).locals.isEmpty then give "not in a function"
  for a in args do
    match splitAssignment a with
    | some (name, value) => localVariable name; setVariable name value false
    | none => localVariable a

def builtinUnset (args : List String) : Shelling Unit := do
  let (options, names) ← takeOptions "fv" "" args
  if (options.getLast?.map (·.1)) = some 'f' then
    modifyShell fun s => { s with functions := s.functions.filter (!names.contains ·.1) }
  else for name in names do unsetVariable name

def builtinShift (args : List String) : Shelling Unit := do
  let n ← match args with
    | [] => pure 1
    | a :: _ => numberArg a
  let s ← shell
  if s.args.length < n then give "can't shift that many"
  modifyShell fun s => { s with args := s.args.drop n, optionIndex := 1, optionOffset := 0 }

/-! ## Directories -/

/-- The names of a path, taken as they stand: two dots undo the name before them. -/
def plainPath (text : String) : List String :=
  ((pathNames text).foldl (fun (names : List String) name =>
    if name = "" || name = "." then names
    else if name = ".." then names.drop 1
    else name :: names) []).reverse

def builtinCd (args : List String) : Shelling Unit := do
  let (options, targets) ← takeOptions "LP" "" args
  let (target, shown) ← match targets with
    | [] => pure ((← get? "HOME").getD "", false)
    | "-" :: _ => pure ((← get? "OLDPWD").getD "", true)
    | dir :: _ => pure (dir, false)
  let s ← shell
  let files ← lift Doing.files
  let physical := (options.getLast?.map (·.1)) = some 'P'
  let here := (← lift Doing.process).dir
  let path := if target.startsWith "/" then target else s.place ++ "/" ++ target
  let path := if physical then target else ofText (Path.text (plainPath path))
  match if target.isEmpty then .ok here else files.findDirectory here (toText path) with
  | .error _ =>
    complain ("can't cd to " ++ target)
    setStatus 2
  | .ok dir =>
    let place := if target.isEmpty then s.place else if physical then ofText dir.text else path
    setVariable "OLDPWD" s.place true
    setVariable "PWD" place true
    modifyShell fun s => { s with place }
    lift (Doing.modifyProcess fun p => { p with dir })
    if shown then putLine place

def builtinPwd (args : List String) : Shelling Unit := do
  let (options, _) ← takeOptions "LP" "" args
  if (options.getLast?.map (·.1)) = some 'P' then putLine (ofText (← lift Doing.process).dir.text)
  else putLine (← shell).place

/-! ## Options of scripts -/

def builtinGetopts (args : List String) : Shelling Unit := do
  match args with
  | spec :: name :: given =>
    let s ← shell
    let words := if given.isEmpty then s.args else given
    let index := if words.length + 1 < s.optionIndex then 1 else s.optionIndex
    match nextOption spec words index (if index ≤ 1 then 0 else s.optionOffset) with
    | .inr index =>
      storeVariable "OPTIND" (toString index) false
      setVariable name "?" false
      modifyShell fun s => { s with optionIndex := index, optionOffset := 0 }
      setStatus 1
    | .inl o =>
      if let some problem := o.problem then lift (Doing.complain (problem ++ "\n"))
      match o.value with
      | some value => setVariable "OPTARG" value false
      | none => unsetVariable "OPTARG"
      storeVariable "OPTIND" (toString o.index) false
      setVariable name o.letter.toString false
      modifyShell fun s => { s with optionIndex := o.index, optionOffset := o.offset }
  | _ => give "Usage: getopts optstring var [arg...]"

/-! ## Permissions -/

/-- Digits in base eight, at least four. -/
def octalText (n : Nat) : String :=
  let digits := String.ofList (Nat.toDigits 8 n)
  String.ofList (List.replicate (4 - digits.length) '0') ++ digits

/-- The permissions that a mask leaves, for the owner, the group and the others. -/
def symbolicText (mask : Nat) : String :=
  let who (name : String) (bits : Nat) : String :=
    name ++ "=" ++ String.join (([(4, "r"), (2, "w"), (1, "x")] : List (Nat × String)).map
      fun p => if bits / p.1 % 2 = 1 then p.2 else "")
  let left := 511 - mask
  ",".intercalate [who "u" (left / 64), who "g" (left / 8 % 8), who "o" (left % 8)]

/-- The permissions that letters stand for, seen from some that there are. -/
def bitsOf (before : Nat) (letters : List Char) : Nat :=
  letters.foldl (fun bits c => bits ||| match c with
    | 'r' => 4
    | 'w' => 2
    | 'x' => 1
    | 'u' => before / 64 % 8
    | 'g' => before / 8 % 8
    | 'o' => before % 8
    | 'X' => if before &&& 73 = 0 then 0 else 1
    | _ => 0) 0

/-- Permissions after the changes that a text asks for, unless it is malformed. -/
def changedBits (before : Nat) : Nat → Nat → Nat → List Char → Option Nat
  | 0, _, _, _ => none
  | fuel + 1, now, places, cs =>
    let whose := cs.takeWhile fun c => "augo".contains c
    let places := whose.foldl (fun n c => n ||| match c with
      | 'u' => 64
      | 'g' => 8
      | 'o' => 1
      | _ => 73) places
    let places := if places = 0 then 73 else places
    match cs.drop whose.length with
    | [] => some now
    | op :: rest =>
      if !"=+-".contains op then none
      else
        let letters := rest.takeWhile fun c => "rwxugoXs".contains c
        let new := bitsOf before letters * places
        let rest := rest.drop letters.length
        let now := match op with
          | '+' => now ||| new
          | '-' => now &&& (511 ^^^ new)
          | _ => new ||| (now &&& (511 ^^^ (7 * places)))
        match rest with
        | [] => some now
        | ',' :: rest => changedBits before fuel now 0 rest
        | c :: _ => if "=+-".contains c then changedBits before fuel now places rest else none

def builtinUmask (args : List String) : Shelling Unit := do
  let mask := (← lift Doing.process).umask
  let set (mask : Nat) : Shelling Unit := lift (Doing.modifyProcess fun p => { p with umask := mask })
  let (options, args) ← takeOptions "S" "" args
  match args with
  | [] => putLine (if options.isEmpty then octalText mask else symbolicText mask)
  | text :: _ =>
    if text.toList.head?.any Char.isDigit then
      if text.toList.all fun c => '0' ≤ c && c ≤ '7' then
        set (text.toList.foldl (fun n c => 8 * n + (c.toNat - 48)) 0 % 512)
      else give ("Illegal number: " ++ text)
    else match changedBits (511 - mask) (text.length + 1) (511 - mask) 0 text.toList with
      | some bits => set (511 - bits)
      | none => give ("Illegal mode: " ++ text)

/-! ## Signals and jobs -/

/-- The number of the job that a text names: it may also be the last one, or the one before. -/
def jobNumber (text : String) : Shelling Nat := do
  let count := (← shell).jobs.length
  let within (number : Nat) (otherwise : String) : Shelling Nat :=
    if 0 < number && number ≤ count then return number else give otherwise
  match text.toList with
  | ['%'] | ['%', '%'] | ['%', '+'] => within count "No current job"
  | ['%', '-'] => within (count - 1) "No previous job"
  | _ :: digits =>
    within ((String.ofList digits).toNat?.getD 0) ("No such job: " ++ text)
  | [] => give ("No such job: " ++ text)

/-- The signal and the targets that arguments name, or what is wrong with them. Without `SIG`
signals are named as options. -/
def killArguments (args : List String) : Except String (Nat × List String) :=
  let usage := "Usage: kill [-s sigspec | -signum | -sigspec] [pid | job]... or\n" ++
    "kill -l [exitstatus]"
  let targets (signal : Nat) (rest : List String) : Except String (Nat × List String) :=
    if rest.isEmpty then .error usage else .ok (signal, rest)
  match args with
  | [] => .error usage
  | arg :: rest =>
    match arg.toList with
    | '-' :: c :: name =>
      match Tool.signalNumber (String.ofList (c :: name)), c with
      | some signal, _ => targets signal rest
      | none, 's' =>
        let (given, rest) := if name.isEmpty then (rest.headD "", rest.drop 1)
          else (String.ofList name, rest)
        match Tool.signalNumber given with
        | some signal => targets signal (if rest.head? = some "--" then rest.drop 1 else rest)
        | none => .error ("invalid signal number or name: " ++ given)
      | none, c => if arg = "--" then targets 15 rest else .error ("Illegal option -" ++ c.toString)
    | _ => targets 15 args

/-- Sends a signal. There is none to send to groups of processes. -/
def builtinKill (args : List String) : Shelling Unit := do
  match args with
  | ["-l"] =>
    putLine "0"
    for name in WaitStatus.signalNames do putLine (String.ofList (name.toList.drop 3))
  | ["-l", text] =>
    let n ← numberArg text
    let signal := if 128 < n then n - 128 else n
    match if signal = 0 then none else WaitStatus.signalNames[signal - 1]? with
    | some name => putLine (String.ofList (name.toList.drop 3))
    | none => give ("invalid signal number or exit status: " ++ text)
  | _ => match killArguments args with
    | .error text => give text
    | .ok (signal, targets) =>
      for target in targets do
        let found ← match target.toList with
          | '%' :: _ =>
            let _ ← jobNumber target
            pure false
          | '-' :: digits =>
            let _ ← numberArg (String.ofList digits)
            pure false
          | _ =>
            let pid ← numberArg target
            if pid = 0 && signal = 0 then pure true else lift (Doing.send pid signal)
        if !found then
          complain "No such process\n"
          setStatus 1

/-- Waits for the processes that go on by themselves, or for some of them. -/
def builtinWait (args : List String) : Shelling Unit := do
  match (← takeOptions "" "" args).2 with
  | [] => setStatus (← awaitJobs none waitLimit)
  | args =>
    for a in args do
      if a.startsWith "%" then
        let number ← jobNumber a
        let pid := (((← shell).jobs[number - 1]?).map (·.last.1)).getD 0
        setStatus (← awaitJobs (some pid) waitLimit)
      else setStatus (← awaitJobs (some (← numberArg a)) waitLimit)

/-- Writes which jobs there are, the last one first, or the numbers of their processes. Those that
have ended are forgotten. -/
def builtinJobs (args : List String) : Shelling Unit := do
  let (options, _) ← takeOptions "lp" "" args
  seeEnds waitLimit
  let jobs := (← shell).jobs
  for (job, i) in jobs.zipIdx.reverse do
    if options.any (·.1 = 'p') then putLine (toString ((job.members.head?.map (·.1)).getD 0))
    else
      let later := (jobs.drop (i + 1)).filter (!·.isDone)
      let sign := if later.isEmpty then "+" else if later.length = 1 then "-" else " "
      let start := "[" ++ toString (i + 1) ++ "] " ++ sign ++ " "
      let state := jobState job
      let gap := String.ofList (List.replicate (33 - start.length - state.length) ' ')
      putLine (start ++ state ++ gap ++ String.join (job.members.tail.map fun _ => " | "))
  modifyShell fun s => { s with jobs := s.jobs.filter (!·.isDone) }

/-- Without a terminal no job can go on in the foreground or the background. -/
def builtinResume (args : List String) : Shelling Unit := do
  let (_, targets) ← takeOptions "" "" args
  let _ ← jobNumber (targets.headD "%+")
  give ("job " ++ targets.headD "(null)" ++ " not created under job control")

/-! ## Conditions and formats -/

def builtinTest (name : String) (args : List String) : Shelling Unit := do
  let s ← lift get
  let scene : ConditionScene := { files := s.files, dir := s.me.dir, behind := s.behind }
  if name = "[" && args.getLast? ≠ some "]" then
    complain "missing ]"
    setStatus 2
  else
    match Condition.answer scene ((if name = "[" then args.dropLast else args).map toText) with
    | .ok yes => setStatus (if yes then 0 else 1)
    | .error why =>
      complain why
      setStatus 2

def builtinPrintf (args : List String) : Shelling Unit := do
  match if args.head? = some "--" then args.drop 1 else args with
  | [] =>
    complain "usage: printf format [arg ...]"
    setStatus 2
  | format :: rest =>
    let f := Format.printf (widen format) (rest.map widen)
    put f.bytes
    for problem in f.problems do complain (problem)
    setStatus (if f.broken then 2 else if f.problems.isEmpty then 0 else 1)

/-! ## Finding commands -/

/-- Where a program is found: the first candidate that is a file that can be run, or else
whether there was something that cannot. -/
def findProgram (files : Files) (dir : Path) (search name : String) : Except Bool String :=
  let rec look (denied : Bool) : List String → Except Bool String
    | [] => .error denied
    | path :: rest =>
      match files.find dir path with
      | .ok (_, .file _ true) | .ok (_, .tool _) => .ok path
      | .ok _ => look true rest
      | .error _ => look denied rest
  look false (candidates search name)

/-- Where the program of a command is, which may be named by its path. -/
def programOf (search name : String) : Shelling (Except Bool String) := do
  if name.contains '/' then return .ok name
  return findProgram (← lift Doing.files) (← lift Doing.process).dir search name

/-- The directories that are searched for programs. -/
def searchPath : Shelling String := do return ((← get? "PATH").map toText).getD ""

/-- Remembers that a program has been found, unless its name is a path. -/
def remember (name : String) : Shelling Unit := do
  if !name.contains '/' && !(← shell).found.contains name then
    modifyShell fun s => { s with found := s.found ++ [name] }

/-- The commands that the shell itself runs and that run no scripts. -/
def plainBuiltins : List String :=
  [":", "true", "false", "echo", "printf", "pwd", "read", "test", "[", "cd", "chdir", "export",
    "readonly", "local", "unset", "shift", "set", "trap", "wait", "kill", "umask", "exit", "return",
    "break", "continue", "hash", "alias", "unalias", "jobs", "ulimit", "times", "getopts", "type",
    "fg", "bg"]

/-- The commands that run other commands. -/
def runningBuiltins : List String := [".", "eval", "exec", "command"]

/-- What a name stands for in a command. -/
inductive Meaning where
  | keyword
  | function
  | builtin (special : Bool)
  /-- a program, and whether it has been found before -/
  | program (path : String) (known : Bool)
  | nothing

def meaningOf (name : String) : Shelling Meaning := do
  if Reader.reserved.contains name then return .keyword
  if (← shell).functions.any (·.1 = name) then return .function
  if plainBuiltins.contains name || runningBuiltins.contains name then
    return .builtin (specialBuiltins.contains name)
  match ← programOf (← searchPath) (toText name) with
  | .ok path =>
    if ((← lift Doing.files).find (← lift Doing.process).dir path).toOption.isSome then
      let known := (← shell).found.contains name
      remember name
      return .program (ofText path) known
    else return .nothing
  | .error _ => return .nothing

def builtinType (args : List String) : Shelling Unit := do
  for name in args do
    match ← meaningOf name with
    | .keyword => putLine (name ++ " is a shell keyword")
    | .function => putLine (name ++ " is a shell function")
    | .builtin true => putLine (name ++ " is a special shell builtin")
    | .builtin false => putLine (name ++ " is a shell builtin")
    | .program path known =>
      putLine (name ++ " is " ++ (if known then "a tracked alias for " else "") ++ path)
    | .nothing => putLine (name ++ ": not found"); setStatus 127

/-- Looks for programs, and complains of those that there are none of. Without names it writes where
programs have been found, in the order in which the shell keeps them. -/
def builtinHash (args : List String) : Shelling Unit := do
  let (options, names) ← takeOptions "rv" "" args
  if !options.isEmpty then modifyShell fun s => { s with found := [] }
  else if names.isEmpty then
    let place (name : String) : Nat := placeAmong 31 name
    for name in (← shell).found.mergeSort fun a b => place a ≤ place b do
      if let .ok path ← programOf (← searchPath) (toText name) then putLine (ofText path)
  for name in names do
    if (← meaningOf name) matches .nothing then
      complain (name ++ ": not found")
      setStatus 1

/-- Tells what a command would run, if there is such a command. -/
def builtinCommandV (name : String) : Shelling Unit := do
  match ← meaningOf name with
  | .program path _ => putLine path
  | .nothing => setStatus 127
  | _ => putLine name

/-! ## All of them -/

/-- Leaves loops, or turns to the next round of one. Outside of loops that is nothing. -/
def leaveLoops (leave : Nat → Leave) (args : List String) : Shelling Unit := do
  let n ← match args with
    | [] => pure 1
    | a :: _ => numberArg a
  if n = 0 then give "Illegal number: 0"
  let levels := min n (← shell).loops
  if 0 < levels then throw (leave (levels - 1))

/-- Runs a builtin command. -/
def plainBuiltin (name : String) (args : List String) : Shelling Unit := do
  match name with
  | "false" => setStatus 1
  | "echo" => put (Format.echo (args.map widen))
  | "printf" => builtinPrintf args
  | "pwd" => builtinPwd args
  | "read" => builtinRead args
  | "test" | "[" => builtinTest name args
  | "cd" | "chdir" => builtinCd args
  | "export" => builtinMark name (·.exported) (fun v => { v with exported := true }) args
  | "readonly" => builtinMark name (·.fixed) (fun v => { v with fixed := true }) args
  | "local" => builtinLocal args
  | "unset" => builtinUnset args
  | "umask" => builtinUmask args
  | "shift" => builtinShift args
  | "set" =>
    if args.isEmpty then listVariables "" fun v => v.value.isSome
    else builtinSet (args.length + 1) args
  | "getopts" => builtinGetopts args
  | "type" => builtinType args
  | "hash" => builtinHash args
  | "trap" => builtinTrap args
  | "kill" => builtinKill args
  | "wait" => builtinWait args
  | "jobs" => builtinJobs args
  | "fg" | "bg" => builtinResume args
  | "times" => putLine "0m0.000000s 0m0.000000s"; putLine "0m0.000000s 0m0.000000s"
  | "exit" =>
    match args with
    | [] =>
      let s ← shell
      exit (s.trapStatus.getD s.status)
    | a :: _ => exit (← numberArg a)
  | "return" =>
    match args with
    | [] => pure ()
    | a :: _ => setStatus (← numberArg a)
    throw .returned
  | "break" => leaveLoops .breakLoop args
  | "continue" => leaveLoops .continueLoop args
  | _ => return ()

/-- Does something as a builtin command, which complaints name. -/
def named (name : String) (action : Shelling Unit) : Shelling Unit := do
  let before := (← shell).command
  let restore : Shelling Unit := modifyShell fun s => { s with command := before }
  modifyShell fun s => { s with command := name }
  try action
  catch e =>
    restore
    throw e
  restore

/-- Does something as a builtin command. An error ends the script only if the command is a special
one. -/
def guarded (special : Bool) (name : String) (action : Shelling Unit) : Shelling Unit := do
  try named name action
  catch e => if e = .broken && !special then setStatus 2 else throw e

/-- Does what a builtin command does. The code is zero unless it says otherwise, and it has failed if
something could not be written. -/
def reporting (special : Bool) (name : String) (action : Shelling Unit) : Shelling Unit :=
  guarded special name do
    let keeps := name = "exit" || name = "return"
    modifyShell fun s => { s with unwritten := false, status := if keeps then s.status else 0 }
    action
    if (← shell).unwritten then
      complain (name ++ ": I/O error")
      setStatus ((← shell).status ||| 1)

/-- Runs a builtin command. -/
def builtin (special : Bool) (name : String) (args : List String) : Shelling Unit :=
  reporting special name (plainBuiltin name args)

end Shelling

end GitSteward.Host.Shell
