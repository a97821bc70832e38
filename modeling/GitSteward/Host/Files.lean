-- The files of a machine: directories, regular files, symbolic links, devices, and the programs
-- that belong to the machine itself. Who looks at them may read and write everything.
import GitSteward.Fault.SystemError
import GitSteward.Text.Lossy

namespace GitSteward.Host

/-- The names that lead from the root to a place. -/
abbrev Path := List String

/-- What can be opened but is no file. -/
inductive Device where
  /-- swallows everything and is empty -/
  | null
  /-- swallows everything and holds zeros without end -/
  | zero
  /-- holds zeros without end and has no room for anything -/
  | full
  /-- the terminal, of which there is none -/
  | terminal
  /-- what a descriptor of the process that asks leads to -/
  | descriptor (fd : Nat)
deriving Repr, DecidableEq, Inhabited

/-- What may be at a place. -/
inductive Node where
  | file (content : Bytes) (runnable : Bool)
  | directory
  | link (target : String)
  | device (device : Device)
  /-- a pipe, to which only descriptors lead -/
  | pipe
  /-- a program of the machine, by name -/
  | tool (name : String)
deriving Repr, DecidableEq, Inhabited

/-- The places other than the root at which there is something. -/
structure Files where
  nodes : List (Path × Node) := []
deriving Repr, Inhabited

/-- The numbers of the errors that paths may lead to. -/
inductive PathError where
  | missing
  | noDevice
  | denied
  | exists
  | notDirectory
  | isDirectory
  | tooLong
  | tooManyLinks
deriving Repr, DecidableEq, Inhabited

/-- The number of an error. -/
def PathError.number : PathError → Int
  | missing => 2
  | noDevice => 6
  | denied => 13
  | «exists» => 17
  | notDirectory => 20
  | isDirectory => 21
  | tooLong => 36
  | tooManyLinks => 40

def PathError.error (e : PathError) : SystemError := .numbered e.number

/-- The names in the text of a path. Names that are empty stand for the place itself. -/
def pathNames (text : String) : List String := text.splitOn "/"

/-- A place as text. -/
def Path.text (p : Path) : String := "/" ++ "/".intercalate p

/-- A place without its last name. -/
def parent : Path → Path := List.dropLast

namespace Files

/-- What is at a place. -/
def get? (fs : Files) (p : Path) : Option Node :=
  if p.isEmpty then some .directory else fs.nodes.lookup p

/-- Puts something at a place. -/
def put (fs : Files) (p : Path) (n : Node) : Files :=
  ⟨(p, n) :: fs.nodes.filter (·.1 != p)⟩

/-- Takes away what is at a place. -/
def erase (fs : Files) (p : Path) : Files := ⟨fs.nodes.filter (·.1 != p)⟩

/-- Where a path leads. `here` is where the walk has come to, and `links` is how many symbolic
links may still be followed. What is not there is reported only before the last name. -/
def walk (fs : Files) (followLast : Bool) :
    Nat → Nat → Path → List String → Except PathError Path
  | 0, _, _, _ => .error .tooManyLinks
  | _ + 1, _, here, [] => .ok here
  | fuel + 1, links, here, name :: rest =>
    match fs.get? here with
    | none => .error .missing
    | some .directory =>
      if name = "" || name = "." then fs.walk followLast fuel links here rest
      else if name = ".." then fs.walk followLast fuel links (parent here) rest
      else if 255 < name.utf8ByteSize then .error .tooLong
      else
        let there := here ++ [name]
        match fs.get? there with
        | some (.link target) =>
          if rest.isEmpty && !followLast then .ok there
          else match links with
            | 0 => .error .tooManyLinks
            | links + 1 =>
              let start := if target.startsWith "/" then [] else here
              if target.isEmpty then .error .missing
              else fs.walk followLast fuel links start (pathNames target ++ rest)
        | some _ => fs.walk followLast fuel links there rest
        | none => if rest.all (· = "") then .ok there else .error .missing
    | some _ => .error .notDirectory

/-- Where the text of a path leads, seen from a directory. Up to forty symbolic links are
followed, and one at the end if `followLast` says so. -/
def resolveTo (fs : Files) (followLast : Bool) (here : Path) (text : String) :
    Except PathError Path :=
  if text.isEmpty then .error .missing
  else if 4095 < text.utf8ByteSize then .error .tooLong
  else fs.walk followLast 100000 40 (if text.startsWith "/" then [] else here) (pathNames text)

/-- Where the text of a path leads, seen from a directory. -/
def resolve (fs : Files) (here : Path) (text : String) : Except PathError Path :=
  fs.resolveTo true here text

/-- What a path leads to, and where that is. -/
def find (fs : Files) (here : Path) (text : String) : Except PathError (Path × Node) := do
  let p ← fs.resolve here text
  match fs.get? p with
  | some n => return (p, n)
  | none => .error .missing

/-- The directory that a path leads to. -/
def findDirectory (fs : Files) (here : Path) (text : String) : Except PathError Path := do
  match ← fs.find here text with
  | (p, .directory) => return p
  | _ => .error .notDirectory

/-- The content of a file. -/
def read (fs : Files) (here : Path) (text : String) : Except PathError Bytes := do
  match ← fs.find here text with
  | (_, .file content _) => return content
  | (_, .directory) => .error .isDirectory
  | _ => return []

/-- Puts a directory at each place on the way to one, where there is nothing yet. -/
def makeParents (fs : Files) (p : Path) : Files :=
  ((List.range p.length).map (p.take ·)).foldl
    (fun fs d => if (fs.get? d).isSome then fs else fs.put d .directory) fs

/-- The names in a directory. -/
def list (fs : Files) (dir : Path) : List String :=
  (fs.nodes.filterMap fun n =>
    if parent n.1 = dir && !n.1.isEmpty then n.1.getLast? else none).mergeSort (· ≤ ·)

end Files

/-! ## The machine -/

/-- The names of the programs that a machine has. -/
def toolNames : List String := [
  "[", "basename", "cat", "chmod", "cp", "cut", "dash", "dd", "dirname", "echo", "env", "false", "git",
  "grep", "head", "kill", "ln", "ls", "mkdir", "mv", "nice", "nohup", "printenv", "printf", "pwd",
  "readlink", "realpath", "rm", "rmdir", "seq", "setsid", "sh", "sleep", "sort", "tac", "tail",
  "tee", "test", "timeout", "touch", "tr", "true", "uniq", "wc", "which", "yes"]

/-- The devices that a machine has, by name. What is random is not told apart from zeros. -/
def devices : List (String × Device) :=
  [("null", .null), ("zero", .zero), ("full", .full), ("tty", .terminal), ("random", .zero),
    ("urandom", .zero)]

/-- The files of a machine that is new. -/
def Files.fresh : Files where
  nodes :=
    [(["bin"], .link "usr/bin"), (["sbin"], .link "usr/sbin"), (["dev"], .directory),
      (["dev", "fd"], .link "/proc/self/fd"), (["dev", "stdin"], .link "/proc/self/fd/0"),
      (["dev", "stdout"], .link "/proc/self/fd/1"), (["dev", "stderr"], .link "/proc/self/fd/2"),
      (["etc"], .directory), (["home"], .directory), (["proc"], .directory),
      (["proc", "self"], .directory), (["proc", "self", "fd"], .directory),
      (["root"], .directory), (["tmp"], .directory), (["usr"], .directory),
      (["usr", "bin"], .directory), (["usr", "sbin"], .directory), (["usr", "lib"], .directory),
      (["usr", "local"], .directory), (["usr", "local", "bin"], .directory),
      (["var"], .directory)] ++
    (devices.map fun d => (["dev", d.1], .device d.2)) ++
    ((List.range 10).map fun fd => (["proc", "self", "fd", toString fd],
      .device (.descriptor fd))) ++
    toolNames.map fun name => (["usr", "bin", name], .tool name)

end GitSteward.Host
