-- What it takes to start a process: program, arguments, environment, directory and what stands
-- behind its standard streams. The operating system takes no text with a NUL in it.
import GitSteward.Environment.Assignment
import GitSteward.Service

namespace GitSteward

/-- What stands behind a standard stream of a new process. -/
inductive Stdio where
  /-- what the starting process has there -/
  | inherited
  /-- a pipe to the starting process -/
  | pipe
  /-- the null device -/
  | null
deriving Repr, DecidableEq, Inhabited

/-- Whether a text holds a NUL. -/
def hasNul (s : String) : Bool := s.toList.contains '\x00'

/-- What is kept of a text that is given for a program, an argument or a directory. -/
def passedText (s : String) : String := if hasNul s then "<string-with-nul>" else s

/-- A process that is to be started. -/
structure Launch where
  program : String
  args : List String
  env : Environment
  dir : String
  stdin : Stdio := .inherited
  stdout : Stdio := .inherited
  stderr : Stdio := .inherited
  /-- whether a text with a NUL was given for the program, an argument or the directory -/
  refused : Bool := false
deriving Inhabited

/-- A change to a process that is to be started. -/
inductive Edit where
  | set (name value : String)
  | unset (name : String)
  | clear
  | arg (text : String)
  | dir (path : String)
deriving Repr, DecidableEq, Inhabited

namespace Launch

/-- A program without arguments. -/
def ofProgram (program dir : String) (env : Environment) : Launch where
  program := passedText program
  args := []
  env := env
  dir := passedText dir
  refused := hasNul program || hasNul dir

/-- Adds an argument at the end. -/
def addArg (l : Launch) (a : String) : Launch :=
  { l with args := l.args ++ [passedText a], refused := l.refused || hasNul a }

/-- Adds arguments at the end. -/
def addArgs (l : Launch) (args : List String) : Launch :=
  { l with
    args := l.args ++ args.map passedText
    refused := l.refused || args.any hasNul }

/-- Makes a change. -/
def edit (l : Launch) : Edit → Launch
  | .set name value => { l with env := l.env.set name value }
  | .unset name => { l with env := l.env.unset name }
  | .clear => { l with env := .empty }
  | .arg text => l.addArg text
  | .dir path => { l with dir := passedText path, refused := l.refused || hasNul path }

/-- Makes changes one after the other. -/
def editAll (l : Launch) (edits : List Edit) : Launch := edits.foldl edit l

/-- Whether the operating system can take all texts. -/
def isPassable (l : Launch) : Bool :=
  !l.refused && l.env.entries.all fun a => !hasNul a.1 && !hasNul a.2

/-- The three streams of a process whose caller has the given ones in hand: a pipe for those
and the null device for the others. -/
def withStreams (l : Launch) (stdin stdout stderr : Bool) : Launch :=
  let behind supplied := if supplied then Stdio.pipe else Stdio.null
  { l with stdin := behind stdin, stdout := behind stdout, stderr := behind stderr }

/-- Settings that come before every git subcommand: partial clones and push options are
allowed, and the filters of large files do nothing. -/
def safetyFlags : List String := [
  "-c", "uploadpack.allowFilter=true",
  "-c", "receive.advertisePushOptions=true",
  "-c", "filter.lfs.required=",
  "-c", "filter.lfs.smudge=",
  "-c", "filter.lfs.clean="]

/-- The arguments of git for a service: the safety flags, the subcommand, the arguments of the
request, and the directory itself as the repository. -/
def gitArgs (service : Service) (args : List String) : List String :=
  safetyFlags ++ service.shortName :: args ++ ["."]

end Launch

end GitSteward
