-- `wc`: how many lines, words and bytes there are in files.
import GitSteward.Host.Tool.Input
import GitSteward.Host.Tool.Options

namespace GitSteward.Host

namespace Tool

open Doing

/-- What is counted in a file. -/
inductive Measure where
  | lines
  | words
  | characters
  | bytes
  /-- the width of the widest line -/
  | width
deriving Repr, DecidableEq, Inhabited

/-- The measures that there are, in the order in which they are told, with their options. -/
def measures : List (Measure × OptionForm) :=
  [(.lines, ⟨'l', "lines", false⟩), (.words, ⟨'w', "words", false⟩),
    (.characters, ⟨'m', "chars", false⟩), (.bytes, ⟨'c', "bytes", false⟩),
    (.width, ⟨'L', "max-line-length", false⟩)]

def isSpace (b : UInt8) : Bool := b = 32 || (9 ≤ b && b ≤ 13)

def isPrinted (b : UInt8) : Bool := 32 ≤ b && b < 127

/-- How many words there are in bytes: runs without white space in which something is printed. -/
def wordCount (inWord : Bool) : Bytes → Nat
  | [] => if inWord then 1 else 0
  | b :: rest =>
    if isSpace b then (if inWord then 1 else 0) + wordCount false rest
    else wordCount (inWord || isPrinted b) rest

/-- The width of the widest line, after some columns of one. -/
def widest (column : Nat) : Bytes → Nat
  | [] => column
  | b :: rest =>
    if b = 10 || b = 12 || b = 13 then max column (widest 0 rest)
    else if b = 9 then widest (column + 8 - column % 8) rest
    else widest (column + if isPrinted b then 1 else 0) rest

def Measure.of (content : Bytes) : Measure → Nat
  | lines => content.count 10
  | words => wordCount false content
  | characters | bytes => content.length
  | width => widest 0 content

/-- Counts put together: widths by the larger, and the others by their sum. -/
def Measure.join (a b : Nat) : Measure → Nat
  | width => max a b
  | _ => a + b

/-- How many digits a number has. -/
def digitCount (n : Nat) : Nat := (toString n).length

/-- The size of what a name stands for, or none if that has none of its own. The result is none if
there is nothing of that name. -/
def sizeOf? (file : String) : Doing (Option (Option Nat)) := do
  let s ← get
  let size : Node → Option Nat
    | .file content _ => some content.length
    | _ => none
  if file = "-" then
    return if (s.channel 0).isNone then none else some ((s.behind 0).bind size)
  else return (s.files.find s.me.dir file).toOption.map fun found => size found.2

/-- How wide the columns are: as wide as the sum of all sizes, and wider where something has no size
of its own. A single count needs no width. -/
def columnWidth (files : List String) (counts : Nat) : Doing Nat := do
  if files.length = 1 && counts = 1 then return 1
  let sizes := (← files.mapM sizeOf?).filterMap id
  let least := if sizes.contains none then 7 else 1
  return max least (digitCount ((sizes.filterMap id).foldl (· + ·) 0))

/-- What a file holds, if it can be opened, and the code. Of one that cannot be read there is
nothing. -/
def countable (file shown : String) : Doing (Option Bytes × Nat) := do
  let (found, code) ← withFile (.plain "wc") file none fun fd => do
    match ← readAll fd with
    | .ok bytes => return .ok (some (bytes, 0))
    | .error e =>
      complain ("wc: " ++ shown ++ ": " ++ reasonOf e ++ "\n")
      return .ok (some ([], 1))
  return (found.map (·.1), max code ((found.map (·.2)).getD 0))

/-- Tells what is counted in files, and the totals if there are more. -/
def tellCounts (ms : List Measure) (files : List String) : Doing Nat := do
  let width ← columnWidth (inputsOf files) ms.length
  let row (counts : List Nat) (name : String) : Doing Unit :=
    let column (n : Nat) : String :=
      String.ofList (List.replicate (width - digitCount n) ' ') ++ toString n
    say (" ".intercalate (counts.map column) ++ name ++ "\n")
  let mut total := ms.map fun _ => 0
  let mut code := 0
  for file in inputsOf files do
    let (content?, result) ← countable file (if files.isEmpty then "'standard input'" else file)
    code := max code result
    if let some content := content? then
      let counts := ms.map (Measure.of content)
      row counts (if files.isEmpty then "" else " " ++ file)
      total := (ms.zip (total.zip counts)).map fun m => Measure.join m.2.1 m.2.2 m.1
  if 1 < files.length then row total " total"
  closing "wc" files code

def wc (args : List String) : Doing Nat := do
  match takeOptions (measures.map (·.2)) args with
  | .error problem => misused "wc" problem 1
  | .ok (options, files) =>
    let chosen (m : Measure × OptionForm) : Bool := options.any (·.1 = m.2.letter)
    let ms := (measures.filter chosen).map (·.1)
    tellCounts (if options.isEmpty then [.lines, .words, .bytes] else ms) files

end Tool

end GitSteward.Host
