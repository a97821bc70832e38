-- The programs of a machine that make, move and remove files and directories, or tell of them.
import GitSteward.Host.Tool

namespace GitSteward.Host

namespace Tool

open Doing

/-- The arguments that are no options. -/
def operands (args : List String) : List String := args.filter (!·.startsWith "-")

/-- Whether a letter is among the options. -/
def hasOption (letter : Char) (args : List String) : Bool :=
  args.any fun a => a.startsWith "-" && !a.startsWith "--" && a.contains letter

/-- Does something for each file, and counts it as a failure if there is a complaint. -/
def forEach (files : List String) (act : String → Doing (Option String)) : Doing Nat := do
  let mut code := 0
  for file in files do
    if let some complaint ← act file then
      complain (complaint ++ "\n")
      code := 1
  return code

/-- Where a path leads, seen from the process. -/
def resolve (followLast : Bool) (file : String) : Doing (Except PathError Path) := do
  let s ← get
  return s.files.resolveTo followLast s.me.dir file

def nodeAt (path : Path) : Doing (Option Node) := do return (← get).files.get? path

def touch (args : List String) : Doing Nat :=
  forEach (operands args) fun file => do
    match ← resolve true file with
    | .error e => return some ("touch: cannot touch '" ++ file ++ "': " ++ systemErrorText e.number)
    | .ok path =>
      if (← nodeAt path).isNone then putNode path (.file [] false)
      return none

def mkdir (args : List String) : Doing Nat :=
  let parents := hasOption 'p' args || args.contains "--parents"
  forEach (operands args) fun file => do
    let refuse (e : PathError) : Doing (Option String) :=
      return some ("mkdir: cannot create directory '" ++ file ++ "': " ++ systemErrorText e.number)
    if parents then
      let here := (← process).dir
      let path := (if file.startsWith "/" then [] else here) ++ (pathNames file).filter fun n => n ≠ "" && n ≠ "."
      for n in List.range (path.length + 1) do
        if (← nodeAt (path.take n)).isNone then putNode (path.take n) .directory
      return none
    else match ← resolve true file with
      | .ok path =>
        if (← nodeAt path).isNone then
          putNode path .directory
          return none
        else refuse .exists
      | .error e => refuse e

def rmdir (args : List String) : Doing Nat :=
  forEach (operands args) fun file => do
    let refuse (reason : String) : Doing (Option String) :=
      return some ("rmdir: failed to remove '" ++ file ++ "': " ++ reason)
    match ← resolve false file with
    | .error e => refuse (systemErrorText e.number)
    | .ok path => match ← nodeAt path with
      | some .directory =>
        if ((← get).files.list path).isEmpty then
          removeNode path
          return none
        else refuse "Directory not empty"
      | some _ => refuse "Not a directory"
      | none => refuse "No such file or directory"

def rm (args : List String) : Doing Nat :=
  let force := hasOption 'f' args
  let whole := hasOption 'r' args || hasOption 'R' args
  forEach (operands args) fun file => do
    let refuse (reason : String) : Doing (Option String) :=
      return some ("rm: cannot remove '" ++ file ++ "': " ++ reason)
    match ← resolve false file with
    | .error e => if force then return none else refuse (systemErrorText e.number)
    | .ok path => match ← nodeAt path with
      | none => if force then return none else refuse "No such file or directory"
      | some .directory =>
        if !whole then refuse "Is a directory"
        else
          for n in (← get).files.nodes.filter fun n => n.1.take path.length = path do
            removeNode n.1
          return none
      | some _ => removeNode path; return none

/-- The last name of a path. -/
def lastName (file : String) : String := baseName file

/-- Where a file is put by a program that puts files somewhere: into a directory, or in the place
of what is there. -/
def destination (file target : String) : Doing (Except PathError Path) := do
  match ← resolve true target with
  | .error e => return .error e
  | .ok path => match ← nodeAt path with
    | some .directory => return .ok (path ++ [lastName file])
    | _ => return .ok path

/-- Copies a file, or moves it. -/
def transfer (name : String) (moves : Bool) (args : List String) : Doing Nat := do
  match (operands args).reverse with
  | [] => misused name "missing file operand" 1
  | [only] => misused name ("missing destination file operand after '" ++ only ++ "'") 1
  | target :: files =>
    forEach files.reverse fun file => do
      let missing : Doing (Option String) :=
        return some (name ++ ": cannot stat '" ++ file ++ "': No such file or directory")
      match ← resolve (!moves) file with
      | .error _ => missing
      | .ok source => match ← nodeAt source, ← destination file target with
        | none, _ => missing
        | some .directory, _ =>
          if moves then return none
          else return some (name ++ ": -r not specified; omitting directory '" ++ file ++ "'")
        | _, .error e =>
          return some (name ++ ": cannot create regular file '" ++ target ++ "': " ++
            systemErrorText e.number)
        | some node, .ok path =>
          putNode path node
          if moves then removeNode source
          return none

/-- Makes symbolic links. Other links are copies. -/
def ln (args : List String) : Doing Nat := do
  match operands args with
  | [target, link] =>
    match ← destination target link with
    | .error e =>
      complain ("ln: failed to create symbolic link '" ++ link ++ "': " ++
        systemErrorText e.number ++ "\n")
      return 1
    | .ok path =>
      if hasOption 's' args then
        putNode path (.link target)
        return 0
      else match ← resolve true target with
        | .ok source => match ← nodeAt source with
          | some node => putNode path node; return 0
          | none =>
            complain ("ln: failed to access '" ++ target ++ "': No such file or directory\n")
            return 1
        | .error e =>
          complain ("ln: failed to access '" ++ target ++ "': " ++ systemErrorText e.number ++ "\n")
          return 1
  | _ => misused "ln" "missing file operand" 1

/-- Whether a mode in octal digits or letters lets the owner run a file, seen from how it was. -/
def runnableAfter (mode : String) (before : Bool) : Bool :=
  if mode.toList.all Char.isDigit then
    ((mode.toList.foldl (fun n c => 8 * n + (c.toNat - 48)) 0) / 64) % 2 = 1
  else if mode.contains 'x' then !mode.contains '-'
  else before

def chmod (args : List String) : Doing Nat :=
  match args with
  | mode :: files => forEach files fun file => do
      match ← resolve true file with
      | .error e =>
        return some ("chmod: cannot access '" ++ file ++ "': " ++ systemErrorText e.number)
      | .ok path => match ← nodeAt path with
        | some (.file content runnable) =>
          putNode path (.file content (runnableAfter mode runnable))
          return none
        | some _ => return none
        | none => return some ("chmod: cannot access '" ++ file ++ "': No such file or directory")
  | [] => misused "chmod" "missing operand" 1

/-- The target of a symbolic link, or where a path leads. -/
def readlink (args : List String) : Doing Nat := do
  let mut code := 0
  for file in operands args do
    match ← resolve (hasOption 'f' args) file with
    | .error _ => code := 1
    | .ok path =>
      if hasOption 'f' args then say (path.text ++ "\n")
      else if let some (.link target) := ← nodeAt path then say (target ++ "\n")
      else code := 1
  return code

def realpath (args : List String) : Doing Nat :=
  forEach (operands args) fun file => do
    match ← resolve true file with
    | .ok path => say (path.text ++ "\n"); return none
    | .error e => return some ("realpath: " ++ file ++ ": " ++ systemErrorText e.number)

end Tool

end GitSteward.Host
