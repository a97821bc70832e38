-- `cat`: files one after the other, perhaps with what cannot be seen made visible.
import GitSteward.Host.Tool.Input
import GitSteward.Host.Tool.Options

namespace GitSteward.Host

namespace Tool

open Doing

/-- How `cat` shows what it copies. -/
structure Showing where
  /-- whether lines are numbered, and whether those are that hold something -/
  numbers : Bool := false
  filledOnly : Bool := false
  /-- whether of many empty lines only one is shown -/
  squeeze : Bool := false
  /-- whether the ends of lines, tabs, and bytes that are not printed are made visible -/
  ends : Bool := false
  tabs : Bool := false
  others : Bool := false
deriving DecidableEq, Inhabited

/-- The way that letters ask for. -/
def Showing.ofLetters (letters : List Char) : Showing where
  numbers := letters.contains 'n' || letters.contains 'b'
  filledOnly := letters.contains 'b'
  squeeze := letters.contains 's'
  ends := letters.any fun c => "AEe".contains c
  tabs := letters.any fun c => "ATt".contains c
  others := letters.any fun c => "Aetv".contains c

/-- A byte as it is made visible. -/
def Showing.byte (s : Showing) (b : UInt8) : Bytes :=
  let caret (b : UInt8) : Bytes := if b = 127 then [94, 63] else [94, b + 64]
  let low (b : UInt8) : Bytes := if b < 32 || b = 127 then caret b else [b]
  if b = 9 then if s.tabs then caret b else [b]
  else if !s.others then [b]
  else if b < 128 then low b
  else [77, 45] ++ low (b - 128)

/-- Where `cat` is in the lines that it shows: how many it has numbered, and how many that are
empty it has just shown. -/
structure ShownSoFar where
  lines : Nat := 0
  atStart : Bool := true
  empties : Nat := 0
deriving Inhabited

/-- A number in front of a line. -/
def lineNumber (n : Nat) : Bytes :=
  let digits := toString n
  Text.utf8 (String.ofList (List.replicate (6 - digits.length) ' ') ++ digits ++ "\t")

/-- Bytes as they are shown, and where that leads. -/
def Showing.apply (s : Showing) : ShownSoFar → Bytes → Bytes × ShownSoFar
  | here, [] => ([], here)
  | here, b :: rest =>
    if b = 10 then
      let dropped := s.squeeze && here.atStart && 1 ≤ here.empties
      let counted := s.numbers && here.atStart && !s.filledOnly && !dropped
      let lines := if counted then here.lines + 1 else here.lines
      let empties := if here.atStart then here.empties + 1 else 0
      let (others, after) := s.apply { lines, atStart := true, empties } rest
      ((if dropped then []
        else (if counted then lineNumber lines else []) ++ (if s.ends then [36] else []) ++ [10]) ++
        others, after)
    else
      let counted := s.numbers && here.atStart
      let lines := if counted then here.lines + 1 else here.lines
      let (others, after) := s.apply { lines, atStart := false, empties := 0 } rest
      ((if counted then lineNumber lines else []) ++ s.byte b ++ others, after)

/-- Writes what can be read from a descriptor in the way that is asked for. -/
def showFrom (s : Showing) (fd : Nat) : Nat → ShownSoFar → Doing (Except SystemError ShownSoFar)
  | 0, _ => hang
  | fuel + 1, here => do
    match ← readFrom fd piece false with
    | .error e => return .error e
    | .ok [] => return .ok here
    | .ok bytes =>
      let (shown, here) := s.apply here bytes
      put shown
      showFrom s fd fuel here

/-- The options of `cat`. -/
def showForms : List OptionForm :=
  [⟨'A', "show-all", false⟩, ⟨'b', "number-nonblank", false⟩, ⟨'e', "", false⟩,
    ⟨'E', "show-ends", false⟩, ⟨'n', "number", false⟩, ⟨'s', "squeeze-blank", false⟩,
    ⟨'t', "", false⟩, ⟨'T', "show-tabs", false⟩, ⟨'u', "", false⟩,
    ⟨'v', "show-nonprinting", false⟩]

def cat (args : List String) : Doing Nat := do
  let (given, files) ← match takeOptions showForms args with
    | .ok (options, files) => pure (options.map (·.1), files)
    | .error problem => return ← misused "cat" problem 1
  if ((← get).channel 1).isNone then
    complain "cat: standard output: Bad file descriptor\n"
    return 1
  let showing := Showing.ofLetters given
  let mut code := 0
  let mut soFar : ShownSoFar := {}
  for file in inputsOf files do
    let before := soFar
    let ((found, after), result) ← withFile (.plain "cat") file (0, before) fun fd => do
      if ← sameFile fd 1 then
        complain ("cat: " ++ file ++ ": input file is output file\n")
        return .ok (1, before)
      if showing = .ofLetters [] then return (← copyFrom fd none).map fun _ => (0, before)
      return (← showFrom showing fd pieceLimit before).map fun after => (0, after)
    soFar := after
    code := max code (max found result)
  if (files.isEmpty || files.contains "-") && ((← get).channel 0).isNone then
    complain "cat: closing standard input: Bad file descriptor\n"
    return 1
  return code

end Tool

end GitSteward.Host
