-- `head` and `tail`: the first or the last part of files.
import GitSteward.Decimal.Reading
import GitSteward.Host.Tool.Input
import GitSteward.Host.Tool.Options

namespace GitSteward.Host

namespace Tool

open Doing

/-- So many lines from the beginning. -/
def firstLines : Nat → Bytes → Bytes
  | 0, _ => []
  | _, [] => []
  | n + 1, b :: rest => if b = 10 then b :: firstLines n rest else b :: firstLines (n + 1) rest

/-- What follows so many lines. -/
def skipLines : Nat → Bytes → Bytes
  | 0, bytes => bytes
  | _, [] => []
  | n + 1, b :: rest => if b = 10 then skipLines n rest else skipLines (n + 1) rest

/-- A count, with the letters that multiply it. -/
def amount (text : String) : Option Nat :=
  let digits := text.toList.takeWhile Char.isDigit
  let unit := String.ofList (text.toList.dropWhile Char.isDigit)
  let factor := ([("", 1), ("b", 512), ("k", 1024), ("K", 1024), ("kB", 1000), ("M", 1024 * 1024),
    ("MB", 1000 * 1000)] : List (String × Nat)).lookup unit
  if digits.isEmpty then none else factor.map (Decimal.ofDigits digits * ·)

/-- What `head` and `tail` are to show: so many bytes or lines. From the end, or all but so many
from the beginning. -/
structure Portion where
  inBytes : Bool := false
  count : Nat := 10
  /-- whether the count is of what is left out -/
  others : Bool := false
deriving Inhabited

/-- A count of a portion, with a sign that says that it is of what is left out. -/
def Portion.ofText? (sign : Char) (inBytes : Bool) (text : String) : Option Portion :=
  match text.toList with
  | c :: rest =>
    if c = sign then (amount (String.ofList rest)).map fun n => ⟨inBytes, n, true⟩
    else if c = '-' || c = '+' then (amount (String.ofList rest)).map fun n => ⟨inBytes, n, false⟩
    else (amount text).map fun n => ⟨inBytes, n, false⟩
  | [] => none

/-- What `head` and `tail` are asked for. -/
structure Excerpt where
  portion : Portion := {}
  /-- whether each file gets a title. Without a choice they do if there are more -/
  titles : Option Bool := none
  /-- whether what is added to a file later is shown as well -/
  follows : Bool := false
  files : List String := []
deriving Inhabited

/-- What is wrong with arguments. -/
inductive ExcerptError where
  /-- an option that there is none of, or that is used wrongly -/
  | option (problem : String)
  /-- a count that is none, and what is counted -/
  | count (inBytes : Bool) (text : String)
  /-- digits behind a dash where they have no meaning -/
  | old (problem : String)
deriving Repr, DecidableEq, Inhabited

def excerptForms : List OptionForm :=
  [⟨'c', "bytes", true⟩, ⟨'n', "lines", true⟩, ⟨'q', "quiet", false⟩, ⟨'q', "silent", false⟩,
    ⟨'v', "verbose", false⟩]

/-- The options of `tail` that others do not have. -/
def followForms : List OptionForm := [⟨'f', "follow", false⟩, ⟨'F', "", false⟩]

/-- Takes an option into account. -/
def Excerpt.add (sign : Char) (x : Excerpt) (option : Char × String) :
    Except ExcerptError Excerpt :=
  match option with
  | ('q', _) => .ok { x with titles := some false }
  | ('v', _) => .ok { x with titles := some true }
  | ('f', _) | ('F', _) => .ok { x with follows := true }
  | (c, text) =>
    match Portion.ofText? sign (c = 'c') text with
    | some portion => .ok { x with portion }
    | none =>
      let shown := if text.startsWith "-" then String.ofList (text.toList.drop 1) else text
      .error (.count (c = 'c') shown)

/-- Digits behind a sign in the first argument, as the options that they stand for. Letters may
follow them. -/
def oldOptions (signs : List Char) (arg : String) :
    Option (Except ExcerptError (List (Char × String))) :=
  match arg.toList with
  | sign :: d :: rest =>
    if !signs.contains sign || !d.isDigit then none
    else
      let digits := d :: rest.takeWhile Char.isDigit
      let letters := rest.dropWhile Char.isDigit
      let count := String.ofList (if sign = '+' then sign :: digits else digits)
      let known (c : Char) : Bool := if signs.contains '+' then c = 'f' else c = 'q' || c = 'v'
      match letters.find? fun c => !(known c || c = 'c' || c = 'l') with
      | some c => some (.error (.old (if signs.contains '+' then
          "option used in invalid context -- " ++ d.toString
          else "invalid trailing option -- " ++ c.toString)))
      | none => some (.ok ((if letters.contains 'c' then 'c' else 'n', count) ::
          (letters.filter known).map (·, "")))
  | _ => none

/-- How many lines there are, counting one at the end that is not ended. -/
def lineCount (bytes : Bytes) : Nat :=
  (bytes.filter (· = 10)).length +
    (if bytes.isEmpty || bytes.getLast? = some 10 then 0 else 1)

/-- So many lines from the end. -/
def lastLines (n : Nat) (bytes : Bytes) : Bytes := skipLines (lineCount bytes - n) bytes

/-- Goes back in a file by so many bytes. In a pipe there is no way back. -/
def rewind (fd count : Nat) : Doing Unit := modify fun s =>
  match s.channel fd with
  | some (.file number) => match s.openFiles.lookup number with
    | some f => s.setOpenFile number { f with offset := f.offset - count }
    | none => s
  | _ => s

/-- Writes so many lines from the beginning, and reads no more than it takes to find them. -/
def headLines (fd : Nat) : Nat → Nat → Bytes → Doing (Except SystemError Unit)
  | 0, _, _ => hang
  | fuel + 1, count, gathered => do
    if count = 0 then
      put gathered
      return .ok ()
    match ← readFrom fd headPiece false with
    | .error e => put gathered; return .error e
    | .ok [] => put gathered; return .ok ()
    | .ok bytes =>
      let kept := firstLines count bytes
      rewind fd (bytes.length - kept.length)
      headLines fd fuel (count - (kept.filter (· = 10)).length) (← putBlocks (gathered ++ kept))

/-- Writes so many bytes from the beginning. -/
def headBytes (fd : Nat) : Nat → Nat → Bytes → Doing (Except SystemError Unit)
  | 0, _, _ => hang
  | fuel + 1, count, gathered => do
    if count = 0 then
      put gathered
      return .ok ()
    match ← readFrom fd (min headPiece count) false with
    | .error e => put gathered; return .error e
    | .ok [] => put gathered; return .ok ()
    | .ok bytes => headBytes fd fuel (count - bytes.length) (← putBlocks (gathered ++ bytes))

/-- What arguments ask for. `signs` tells which signs may stand in front of digits in the first one,
and `sign` which one says that a count is of what is left out. -/
def Excerpt.ofArgs (forms : List OptionForm) (signs : List Char) (sign : Char)
    (args : List String) : Except ExcerptError Excerpt := do
  let (old, args) ← match (args.head?).bind (oldOptions signs) with
    | some (.ok options) => pure (options, args.drop 1)
    | some (.error e) => throw e
    | none => pure ([], args)
  match takeOptions forms args with
  | .error problem => throw (.option problem)
  | .ok (options, files) =>
    let x ← (old ++ options).foldlM (Excerpt.add sign) {}
    return { x with files }

/-- Complains of arguments. -/
def badExcerpt (name : String) : ExcerptError → Doing Nat
  | .option problem => misused name problem 1
  | .count inBytes text => do
    complain (name ++ ": invalid number of " ++ (if inBytes then "bytes" else "lines") ++ ": '" ++
      text ++ "'\n")
    return 1
  | .old problem => do
    complain (name ++ ": " ++ problem ++ "\n" ++
      if name = "head" then "Try 'head --help' for more information.\n" else "")
    return 1

/-- Does something for each file, under its title if they have titles. -/
def titled (name : String) (x : Excerpt)
    (use : Nat → Doing (Except SystemError Unit)) : Doing Nat := do
  let files := inputsOf x.files
  let titles := x.titles.getD (1 < files.length)
  let mut code := 0
  let mut first := true
  for file in files do
    let title := (if first then "" else "\n") ++ "==> " ++
      (if file = "-" then "standard input" else file) ++ " <==\n"
    let words := FileWords.portion name
    let ((opened, problems), result) ← withFile words file (false, 0) fun fd => do
      if titles then say title
      if let .error e ← use fd then
        complain (words.unread file (reasonOf e))
        return .ok (true, 1)
      return .ok (true, 0)
    first := first && !opened
    code := max code (max problems result)
  closing name x.files code

def head (args : List String) : Doing Nat :=
  match Excerpt.ofArgs excerptForms ['-'] '-' args with
  | .error e => badExcerpt "head" e
  | .ok x => titled "head" x fun fd =>
    match x.portion.inBytes, x.portion.others, x.portion.count with
    | true, false, n => headBytes fd pieceLimit n []
    | true, true, n => withAll fd fun bytes => put (bytes.take (bytes.length - n))
    | false, false, n => headLines fd pieceLimit n []
    | false, true, n => withAll fd fun bytes => put (firstLines (lineCount bytes - n) bytes)

def tail (args : List String) : Doing Nat :=
  match Excerpt.ofArgs (excerptForms ++ followForms) ['-', '+'] '+' args with
  | .error e => badExcerpt "tail" e
  | .ok x => do
    let code ← titled "tail" x fun fd =>
      withAll fd fun bytes => put (match x.portion.inBytes, x.portion.others, x.portion.count with
        | true, false, n => bytes.drop (bytes.length - n)
        | true, true, n => bytes.drop (n - 1)
        | false, false, n => lastLines n bytes
        | false, true, n => lastLines (lineCount bytes - (n - 1)) bytes)
    if x.follows && !x.files.isEmpty then
      if code = 0 || 1 < x.files.length then hang
      complain "tail: no files remaining\n"
    return code

end Tool

end GitSteward.Host
