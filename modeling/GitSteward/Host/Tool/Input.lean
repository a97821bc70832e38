-- What programs have in common: options, and files that are read or complained of.
import GitSteward.Host.Course

namespace GitSteward.Host

namespace Tool

open Doing

/-- How much is read at once. -/
def piece : Nat := 64 * 1024

/-- More pieces than are ever read. -/
def pieceLimit : Nat := 1_000_000_000_000

/-- Handles what can be read from a descriptor piece by piece, up to so many pieces and bytes, or
to the end. -/
def eachPiece (fd : Nat) (use : Bytes → Doing Unit) :
    Nat → Option Nat → Doing (Except SystemError Unit)
  | 0, _ => hang
  | fuel + 1, most => do
    if most = some 0 then return .ok ()
    match ← readFrom fd (most.elim piece (min piece)) false with
    | .error e => return .error e
    | .ok [] => return .ok ()
    | .ok bytes =>
      use bytes
      eachPiece fd use fuel (most.map (· - bytes.length))

/-- Writes what can be read from a descriptor, up to so many bytes. -/
def copyFrom (fd : Nat) (most : Option Nat) : Doing (Except SystemError Unit) :=
  eachPiece fd put pieceLimit most

/-- All that can be read from a descriptor, after what has been read already. -/
def readOn (fd : Nat) : Nat → Queue → Doing (Except SystemError Bytes)
  | 0, _ => hang
  | fuel + 1, done => do
    match ← readFrom fd piece false with
    | .error e => return .error e
    | .ok [] => return .ok done.bytes
    | .ok bytes => readOn fd fuel (done.append bytes)

/-- All that can be read from a descriptor. -/
def readAll (fd : Nat) : Doing (Except SystemError Bytes) := readOn fd pieceLimit .empty

/-- The descriptor under which files are opened. -/
def spare : Nat := 100

/-- Complains of a wrong use of a program. -/
def misused (name problem : String) (code : Nat) : Doing Nat := do
  complain (name ++ ": " ++ problem ++ "\nTry '" ++ name ++ " --help' for more information.\n")
  return code

/-- What a program says of a file that it cannot open, and of one that it cannot read. -/
structure FileWords where
  unopened : String → String → String
  unread : String → String → String

/-- The words of most programs. -/
def FileWords.plain (name : String) : FileWords :=
  let words (file reason : String) : String := name ++ ": " ++ file ++ ": " ++ reason ++ "\n"
  ⟨words, words⟩

/-- The words of `head` and `tail`. -/
def FileWords.portion (name : String) : FileWords where
  unopened file reason := name ++ ": cannot open '" ++ file ++ "' for reading: " ++ reason ++ "\n"
  unread file reason := name ++ ": error reading '" ++
    (if file = "-" then "standard input" else file) ++ "': " ++ reason ++ "\n"

/-- Does something with a file, a dash standing for the input. The result is what comes of that, and
the code: there is a complaint about a file that cannot be read. -/
def withFile (words : FileWords) (file : String) (otherwise : α)
    (use : Nat → Doing (Except SystemError α)) : Doing (α × Nat) := do
  if file = "-" then
    match ← use 0 with
    | .ok a => return (a, 0)
    | .error e => complain (words.unread file (reasonOf e)); return (otherwise, 1)
  else match ← openPath file .read with
    | .error e => complain (words.unopened file (reasonOf e.error)); return (otherwise, 1)
    | .ok c =>
      setChannel spare (some c)
      let result ← use spare
      setChannel spare none
      match result with
      | .ok a => return (a, 0)
      | .error e => complain (words.unread file (reasonOf e)); return (otherwise, 1)

/-- The files that are named, or the input if none is. -/
def inputsOf (files : List String) : List String := if files.isEmpty then ["-"] else files

/-- The code of a program at its end, when it closes its input. If it has read that there is a
complaint in case there was none to close. -/
def closing (name : String) (files : List String) (code : Nat) : Doing Nat := do
  if (inputsOf files).contains "-" && ((← get).channel 0).isNone then
    complain (name ++ ": -: Bad file descriptor\n")
    return 1
  return code

/-- Whether two descriptors lead to the same file, and there is something in it. -/
def sameFile (a b : Nat) : Doing Bool := do
  let s ← get
  let place (fd : Nat) : Option Path := match s.channel fd with
    | some (.file number) => (s.openFiles.lookup number).map (·.path)
    | _ => none
  return (place a).isSome && place a = place b && match s.behind a with
    | some (.file content _) => !content.isEmpty
    | _ => false

/-- The letters of options. -/
def letters (args : List String) : List Char :=
  (args.filter (·.startsWith "-")).flatMap fun a => a.toList.drop 1

/-- How much is read at once by one who looks for the first lines or bytes. -/
def headPiece : Nat := 8192

/-- Does something with all that can be read from a descriptor. -/
def withAll (fd : Nat) (use : Bytes → Doing Unit) : Doing (Except SystemError Unit) := do
  match ← readAll fd with
  | .error e => return .error e
  | .ok bytes => use bytes; return .ok ()

/-- Output is gathered until there is so much of it, or the end is reached. -/
def outputBlock : Nat := 4096

/-- Writes the whole blocks of what has been gathered. The result is the rest. -/
def putBlocks (gathered : Bytes) : Doing Bytes := do
  let whole := gathered.length / outputBlock * outputBlock
  put (gathered.take whole)
  return gathered.drop whole

end Tool

end GitSteward.Host
