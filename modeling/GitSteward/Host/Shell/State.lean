-- What a shell keeps while it runs a script. Its texts are bytes: each character stands for one,
-- so that what is no text passes through unchanged.
import GitSteward.Environment.Assignment
import GitSteward.Host.Course
import GitSteward.Host.Shell.Script

namespace GitSteward.Host.Shell

/-- Bytes as a text with one character for each. -/
def narrow (bytes : Bytes) : String := String.ofList (bytes.map fun b => Char.ofNat b.toNat)

/-- The bytes of a text with one character for each. -/
def widen (s : String) : Bytes := s.toList.map fun c => c.toNat.toUInt8

/-- A text of the machine as one of the shell. -/
def ofText (s : String) : String := narrow (Text.utf8 s)

/-- A text of the shell as one of the machine. -/
def toText (s : String) : String := Text.lossy (widen s)

structure Variable where
  name : String
  /-- its value, if it has got one -/
  value : Option String
  exported : Bool
  /-- whether it keeps its value -/
  fixed : Bool := false
deriving Repr, Inhabited

/-- The processes of a command that goes on by itself. -/
structure ShellJob where
  /-- each with how it ended, once the shell has seen that -/
  members : List (Nat × Option Stop)
  /-- whether the script has asked how it ended -/
  asked : Bool := false
deriving Repr, Inhabited

/-- The process after which a job is named, and how that has ended. -/
def ShellJob.last (j : ShellJob) : Nat × Option Stop := j.members.getLast?.getD (0, none)

/-- Whether all processes of a job are seen to have ended. -/
def ShellJob.isDone (j : ShellJob) : Bool := j.members.all (·.2.isSome)

structure State where
  /-- the name of the script -/
  name : String
  /-- its arguments -/
  args : List String
  vars : List Variable
  /-- the code of the last command -/
  status : Nat := 0
  /-- the code of the last child whose output took the place of a word -/
  outputStatus : Nat := 0
  /-- the line of the script that is being run, and how far the script has been read -/
  line : Nat := 1
  lastLine : Nat := 1
  /-- the builtin command that is being run -/
  command : String := ""
  pid : Nat
  /-- the directory it is in, by the path that it has taken -/
  place : String := "/"
  jobs : List ShellJob := []
  lastBackground : Option Nat := none
  functions : List (String × Command) := []
  /-- what is run on signals, zero standing for the end. A signal with nothing to run is
  ignored. -/
  traps : List (Nat × String) := []
  /-- the code that a script has which is run on a signal if it does not tell another one -/
  trapStatus : Option Nat := none
  /-- the signals that were ignored before and stay so -/
  stubborn : List Nat := []
  /-- the names of the options that are set -/
  options : List String := []
  /-- whether the code of the command that is run is looked at by another one -/
  tested : Bool := false
  /-- for each function that is being run, the variables that are to come back after it -/
  locals : List (List (String × Option Variable)) := []
  /-- how many loops are being run, and how often they have turned -/
  loops : Nat := 0
  turns : Nat := 0
  /-- the argument that `getopts` looks at next, counting from one, and how far it has been read -/
  optionIndex : Nat := 1
  optionOffset : Nat := 0
  /-- where programs have been found, in the order in which they were looked for -/
  found : List String := []
  /-- whether a builtin command could not write its output -/
  unwritten : Bool := false
deriving Inhabited

/-- Whether an option is set. -/
def State.has (s : State) (option : String) : Bool := s.options.contains option

/-- Whether anything is run on signals or at the end. -/
def State.hasTraps (s : State) : Bool := s.traps.any fun t => t.2 ≠ ""

/-- The shell in a child: it has no jobs of its own yet, and nothing is run on signals. -/
def State.forked (s : State) : State :=
  { s with jobs := [], traps := s.traps.filter (·.2 = "") }

/-- Why a shell leaves what it is doing. -/
inductive Leave where
  | exit (code : Nat)
  /-- there is an error that ends scripts -/
  | broken
  | breakLoop (levels : Nat)
  | continueLoop (levels : Nat)
  | returned
deriving Repr, DecidableEq, Inhabited

/-- What a shell does, step by step. -/
abbrev Shelling := ExceptT Leave (StateT State Doing)

namespace Shelling

/-- Does what a process can do. -/
def lift (d : Doing α) : Shelling α := ExceptT.lift (StateT.lift d)

def shell : Shelling State := ExceptT.lift get

def modifyShell (f : State → State) : Shelling Unit := ExceptT.lift (modify f)

def setStatus (code : Nat) : Shelling Unit := modifyShell fun s => { s with status := code }

def exit (code : Nat) : Shelling α := throw (.exit (code % 256))

/-- Writes what a builtin command has to say. -/
def put (bytes : Bytes) : Shelling Unit := do
  if let .error _ ← lift (Doing.writeTo 1 bytes) then
    modifyShell fun s => { s with unwritten := true }

/-- Writes a message with the name of the script, the line, and the builtin command that is being
run, if one is. -/
def complain (text : String) : Shelling Unit := do
  let s ← shell
  let command := if s.command.isEmpty then "" else s.command ++ ": "
  let message := s.name ++ ": " ++ toString s.line ++ ": " ++ command ++ text ++ "\n"
  lift do
    let _ ← Doing.writeTo 2 (widen message)

/-- Complains and leaves the script. -/
def give (text : String) : Shelling α := do
  complain text
  throw .broken

/-! ## Variables -/

def get? (name : String) : Shelling (Option String) := do
  return ((← shell).vars.find? (·.name = name)).bind (·.value)

/-- Variables with one put in its place, or after the others. -/
def putVariable (v : Variable) (vs : List Variable) : List Variable :=
  if vs.any (·.name = v.name) then vs.map fun w => if w.name = v.name then v else w
  else vs ++ [v]

/-- Gives a variable a value. -/
def storeVariable (name value : String) (exported : Bool) : Shelling Unit := do
  if !isName name then give (name ++ ": bad variable name")
  let s ← shell
  let old := s.vars.find? (·.name = name)
  if old.any (·.fixed) then give (name ++ ": is read only")
  let exported := exported || old.any (·.exported) || s.has "allexport"
  modifyShell fun s => { s with
    vars := putVariable ⟨name, some value, exported, false⟩ s.vars }

/-- The number that a text is. -/
def numberOf (text : String) : Option Nat :=
  match text.toList with
  | '+' :: digits => if digits.isEmpty then none else (String.ofList digits).toNat?
  | _ => if text.contains '_' then none else text.toNat?

/-- A number that a builtin command is given. -/
def numberArg (text : String) : Shelling Nat :=
  match numberOf text with
  | some n => return n
  | none => give ("Illegal number: " ++ text)

/-- Gives a variable a value. Two of them have a meaning for the shell: which argument `getopts`
looks at next, and where programs are found. -/
def setVariable (name value : String) (exported : Bool) : Shelling Unit := do
  storeVariable name value exported
  if name = "OPTIND" then
    let n ← numberArg value
    modifyShell fun s => { s with optionIndex := max n 1, optionOffset := 0 }
  if name = "PATH" then modifyShell fun s => { s with found := [] }

def unsetVariable (name : String) : Shelling Unit := do
  if !isName name then give (name ++ ": bad variable name")
  if (← shell).vars.any fun v => v.name = name && v.fixed then
    give (name ++ ": is read only")
  modifyShell fun s => { s with vars := s.vars.filter (·.name ≠ name) }

/-- Changes a variable, which may have no value yet. -/
def markVariable (name : String) (mark : Variable → Variable) : Shelling Unit := do
  if !isName name then give (name ++ ": bad variable name")
  modifyShell fun s =>
    let old := (s.vars.find? (·.name = name)).getD ⟨name, none, false, false⟩
    { s with vars := putVariable (mark old) s.vars }

/-- Makes a variable local to the function that is being run. -/
def localVariable (name : String) : Shelling Unit := do
  if !isName name then give (name ++ ": bad variable name")
  modifyShell fun s => match s.locals with
    | [] => s
    | frame :: outer =>
      if frame.any (·.1 = name) then s
      else { s with locals := ((name, s.vars.find? (·.name = name)) :: frame) :: outer }

/-- The variables after a function, where those that were local have come back. -/
def restoreLocals (frame : List (String × Option Variable)) (vs : List Variable) :
    List Variable :=
  frame.foldl (fun vs l => match l.2 with
    | some v => putVariable v vs
    | none => vs.filter (·.name ≠ l.1)) vs

/-- Where a shell keeps something with a name that has so many places. -/
def placeAmong (places : Nat) (name : String) : Nat :=
  let bytes := widen name
  (16 * (bytes.headD 0).toNat + (bytes.map UInt8.toNat).foldl (· + ·) 0) % places

/-- What the commands that the shell starts are handed over, in order. -/
def handedOver : Shelling Assignments := do
  let exported := (← shell).vars.filter (·.exported)
  let sorted := exported.mergeSort fun a b => placeAmong 39 a.name ≤ placeAmong 39 b.name
  return sorted.filterMap fun v => v.value.map fun value => (toText v.name, toText value)

/-- The characters at which unquoted values are split. -/
def separators : Shelling (List Char) := do
  return ((← get? "IFS").getD " \t\n").toList

end Shelling

/-- The variables that a shell has anyway. -/
def defaultVariables : List Variable :=
  [("IFS", " \t\n"), ("OPTIND", "1"),
    ("PATH", "/usr/local/sbin:/usr/local/bin:/usr/sbin:/usr/bin:/sbin:/bin"), ("PS1", "$ "),
    ("PS2", "> "), ("PS4", "+ ")].map fun v => ⟨v.1, some v.2, false, false⟩

/-- The variables of a shell that is started in a directory. Each text of its environment is
divided at its first equals sign, and what cannot be a name is passed over. -/
def variablesOf (handed : Assignments) (place : String) (starter : Nat) : List Variable :=
  let given := (handed.map assignmentText).filterMap splitAssignment
  let found : List Variable := (given.filter fun a => isName a.1).map fun a =>
    ⟨a.1, some (ofText a.2), true, false⟩
  let here : Variable := ⟨"PWD", some (ofText place), true, false⟩
  let above : Variable := ⟨"PPID", some (toString starter), false, false⟩
  (found ++ [here, above]).foldl (fun vs v => Shelling.putVariable v vs) defaultVariables

end GitSteward.Host.Shell
