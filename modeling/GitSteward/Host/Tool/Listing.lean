-- `ls`: the names in directories.
import GitSteward.Host.Tool.Input
import GitSteward.Host.Tool.Options

namespace GitSteward.Host

namespace Tool

open Doing

/-- How names are listed. -/
structure Listing where
  /-- whether names with a dot in front are shown, and whether the directory itself and the one
  above it are -/
  hidden : Bool := false
  itself : Bool := false
  /-- whether a directory is shown as a name of its own -/
  unopened : Bool := false
  reversed : Bool := false
  /-- whether the directories in a directory are listed as well -/
  deep : Bool := false
  /-- whether directories are marked, and whether other kinds are -/
  slashes : Bool := false
  kinds : Bool := false

/-- The options of `ls`. What is told beside the names is left out. -/
def listingForms : List OptionForm :=
  [⟨'a', "all", false⟩, ⟨'A', "almost-all", false⟩, ⟨'d', "directory", false⟩,
    ⟨'r', "reverse", false⟩, ⟨'R', "recursive", false⟩, ⟨'F', "classify", false⟩, ⟨'p', "", false⟩,
    ⟨'1', "", false⟩, ⟨'l', "", false⟩, ⟨'h', "human-readable", false⟩, ⟨'N', "literal", false⟩, ⟨'q', "hide-control-chars", false⟩]

/-- The way that letters ask for. -/
def Listing.ofLetters (letters : List Char) : Listing where
  hidden := letters.contains 'a' || letters.contains 'A'
  itself := letters.contains 'a'
  unopened := letters.contains 'd'
  reversed := letters.contains 'r'
  deep := letters.contains 'R'
  slashes := letters.contains 'p' || letters.contains 'F'
  kinds := letters.contains 'F'

/-- A name with the mark of what it stands for. -/
def Listing.marked (l : Listing) (name : String) (node : Option Node) : String :=
  name ++ match node with
    | some .directory => if l.slashes then "/" else ""
    | some (.link _) => if l.kinds then "@" else ""
    | some (.file _ true) | some (.tool _) => if l.kinds then "*" else ""
    | _ => ""

/-- Names in their order. -/
def Listing.ordered (l : Listing) (names : List String) : List String :=
  let sorted := names.mergeSort (· ≤ ·)
  if l.reversed then sorted.reverse else sorted

/-- The lines of a directory, and of those in it if they are wanted: these follow under their
titles. -/
def Listing.lines (l : Listing) (files : Files) : Nat → String → Path → List String
  | 0, _, _ => []
  | fuel + 1, title, path =>
    let shown := (files.list path).filter fun name => l.hidden || !name.startsWith "."
    let names := l.ordered ((if l.itself then [".", ".."] else []) ++ shown)
    let node (name : String) : Option Node :=
      if name = "." || name = ".." then some .directory else files.get? (path ++ [name])
    let inner := if !l.deep then [] else (l.ordered shown).flatMap fun name =>
      match node name with
      | some .directory =>
        let title := title ++ "/" ++ name
        ["", title ++ ":"] ++ l.lines files fuel title (path ++ [name])
      | _ => []
    names.map (fun name => l.marked name (node name)) ++ inner

/-- Where a name leads: to a directory that is listed, or to a name of its own. -/
def Listing.operand (l : Listing) (s : Scene) (file : String) :
    Except PathError (Path × Option Node × Bool) := do
  let isLinked := !l.unopened && !l.kinds
  let (path, node) ← match s.files.find s.me.dir file with
    | .ok found => if isLinked then pure found else named
    | .error e => if (named.toOption.any fun found => found.2 matches .link _) then named else .error e
  return (path, some node, (node matches .directory) && !l.unopened)
where
  /-- What the name itself stands for, which may be a symbolic link. -/
  named : Except PathError (Path × Node) := do
    let path ← s.files.resolveTo false s.me.dir file
    match s.files.get? path with
    | some node => return (path, node)
    | none => throw .missing

def ls (args : List String) : Doing Nat := do
  match takeOptions listingForms args with
  | .error problem => misused "ls" problem 2
  | .ok (options, given) =>
    let l := Listing.ofLetters (options.map (·.1))
    let s ← get
    let files := if given.isEmpty then ["."] else given
    let found := files.map fun file => (file, l.operand s file)
    let mut code := 0
    for (file, result) in found do
      if let .error e := result then
        complain ("ls: cannot access '" ++ file ++ "': " ++ systemErrorText e.number ++ "\n")
        code := 2
    let operand (file : String) : Option (Path × Option Node × Bool) :=
      (found.lookup file).bind (·.toOption)
    let isOpened (file : String) : Bool := (operand file).any (·.2.2)
    let (opened, single) := (l.ordered (files.filter fun file => (operand file).isSome)).partition
      isOpened
    let rows := single.map fun file => l.marked file ((operand file).bind (·.2.1))
    let sections := opened.map fun file =>
      let lines := match operand file with
        | some (path, _) => l.lines s.files (s.files.nodes.length + 1) file path
        | none => []
      if 1 < files.length || l.deep then (file ++ ":") :: lines else lines
    let blocks := (if single.isEmpty then [] else [rows]) ++ sections
    say (String.join ((List.intercalate [""] blocks).map (· ++ "\n")))
    return code

end Tool

end GitSteward.Host
