-- What a machine runs when a process is to be started: a program of its own, or a script with
-- the program that its first line names.
import GitSteward.Host.Files
import GitSteward.Launch

namespace GitSteward.Host

/-- A program of the machine that is run, and what it is given. -/
structure Image where
  tool : String
  /-- the name under which it is run, and its arguments -/
  argv : List String
  env : Environment
  /-- the environment in the order in which it is handed over, if that is another one -/
  order : Option Assignments := none
  dir : Path
deriving Inhabited

/-- The environment in the order in which it was handed over. -/
def Image.assignments (i : Image) : Assignments := i.order.getD i.env.entries

/-- Why a program cannot be run: a path is at fault, or what it leads to is no program. -/
inductive RunError where
  | path (error : PathError)
  | notProgram
deriving Repr, DecidableEq, Inhabited

def RunError.error : RunError → SystemError
  | path e => e.error
  | notProgram => .numbered 8

/-- Whether a byte is a blank. -/
def isBlankByte (b : UInt8) : Bool := b = 0x20 || b = 0x09

/-- The first line of a script that names a program, taken apart: the program, and the rest of
the line if there is one. -/
def interpreterLine (content : Bytes) : Option (String × Option String) :=
  match content with
  | 0x23 :: 0x21 :: rest =>
    let line := (rest.take 253).takeWhile (· ≠ 0x0A)
    let line := ((line.dropWhile isBlankByte).reverse.dropWhile isBlankByte).reverse
    let program := line.takeWhile fun b => !isBlankByte b && b ≠ 0
    let more := (line.dropWhile fun b => !isBlankByte b && b ≠ 0).dropWhile isBlankByte
    if program.isEmpty then none
    else some (Text.lossy program, if more.isEmpty then none else some (Text.lossy more))
  | _ => none

/-- What is run for a path. Scripts may name scripts, up to some depth. -/
def load (fs : Files) (dir : Path) (env : Environment) :
    Nat → String → List String → Except RunError Image
  | 0, _, _ => .error (.path .tooManyLinks)
  | depth + 1, path, argv => do
    match ← (fs.find dir path).mapError .path with
    | (_, .tool tool) => return { tool, argv, env, dir }
    | (_, .file content true) =>
      match interpreterLine content with
      | some (program, more) =>
        load fs dir env depth program ([program] ++ more.toList ++ path :: argv.drop 1)
      | none => .error .notProgram
    | _ => .error (.path .denied)

/-- How deep scripts may name scripts. -/
def scriptDepth : Nat := 5

/-- What is run for a path that is given as such. -/
def loadPath (fs : Files) (dir : Path) (env : Environment) (path : String) (args : List String) :
    Except RunError Image :=
  load fs dir env scriptDepth path (path :: args)

/-- The directories that are searched where nothing is said. -/
def defaultSearch : String := "/bin:/usr/bin"

/-- The paths at which a program is looked for. A directory without a name is the current
one. -/
def candidates (search name : String) : List String :=
  (search.splitOn ":").map fun d => if d.isEmpty then name else d ++ "/" ++ name

/-- What is run for the first candidate that can be run. One that may not be run is passed
over, and so is one that is not there. One that is no program is taken for a script of the
shell. -/
def loadFirst (fs : Files) (dir : Path) (env : Environment) (args : List String)
    (failure : RunError) : List String → Except RunError Image
  | [] => .error failure
  | path :: rest =>
    match loadPath fs dir env path args with
    | .ok image => .ok image
    | .error .notProgram => load fs dir env scriptDepth "/bin/sh" ("/bin/sh" :: path :: args)
    | .error (.path .denied) => loadFirst fs dir env args (.path .denied) rest
    | .error (.path .missing) | .error (.path .notDirectory) =>
      loadFirst fs dir env args failure rest
    | .error e => .error e

/-- What is run for a program. A name without a slash is looked for in the directories that the
environment of the process names. -/
def loadProgram (fs : Files) (dir : Path) (env : Environment) (program : String)
    (args : List String) : Except RunError Image :=
  if program.isEmpty then .error (.path .missing)
  else if program.contains '/' then loadPath fs dir env program args
  else if 255 < program.utf8ByteSize then .error (.path .tooLong)
  else
    let search := (env.get? "PATH").getD defaultSearch
    loadFirst fs dir env args (.path .missing) (candidates search program)

/-- The error of a text that the operating system cannot take. -/
def nulError : SystemError := .told .invalidInput "nul byte found in provided data"

/-- What is run for a process that is to be started by one in directory `here`. The process
enters its own directory first. -/
def start (fs : Files) (here : Path) (l : Launch) : Except SystemError Image := do
  if !l.isPassable then throw nulError
  let dir ← (fs.findDirectory here l.dir).mapError PathError.error
  (loadProgram fs dir l.env l.program l.args).mapError RunError.error

end GitSteward.Host
