-- The programs that a machine has, the shell and git left out.
import GitSteward.Host.Tool.Condition
import GitSteward.Host.Tool.Count
import GitSteward.Host.Tool.Portion
import GitSteward.Host.Tool.Show
import GitSteward.Host.Tool.Translate

namespace GitSteward.Host

namespace Tool

open Doing

/-- The number of a signal by its name without `SIG`, in any case, or by its number. -/
def signalNumber (name : String) : Option Nat :=
  match WaitStatus.signalNames.idxOf? ("SIG" ++ name.toUpper) with
  | some i => if name.toUpper = "STKFLT" then none else some (i + 1)
  | none => (name.toNat?).bind fun n => if n < 65 then some n else none

/-- Writes what can be read with its bytes replaced. -/
def translate (t : Translate.Translation) : Nat → Bytes → Doing (Except SystemError Unit)
  | 0, _ => hang
  | fuel + 1, gathered => do
    match ← readFrom 0 headPiece false with
    | .error e => put gathered; return .error e
    | .ok [] => put gathered; return .ok ()
    | .ok bytes => translate t fuel (← putBlocks (gathered ++ t.apply bytes))

def tr (args : List String) : Doing Nat := do
  let options := (args.takeWhile fun a => a.startsWith "-" && a.length > 1).flatMap
    fun a => a.toList.drop 1
  let sets := args.dropWhile fun a => a.startsWith "-" && a.length > 1
  match Translate.ofArgs (options.contains 'c') (options.contains 'd') (options.contains 's')
      sets with
  | none => match sets with
    | [] => misused "tr" "missing operand" 1
    | first :: _ => misused "tr" ("missing operand after '" ++ first ++
        "'\nTwo strings must be given when translating.") 1
  | some t =>
    match ← translate t pieceLimit [] with
    | .ok () => return 0
    | .error e => complain ("tr: read error: " ++ reasonOf e ++ "\n"); return 1

/-- A span of time, in nanoseconds. -/
def span (text : String) : Option Nat :=
  let units : List (Char × Nat) := [('s', 1), ('m', 60), ('h', 3600), ('d', 86400)]
  let unit := text.toList.getLast?.bind fun c => units.lookup c
  let number := if unit.isSome then text.toList.dropLast else text.toList
  (Decimal.readMagnitude number).map fun d =>
    let exponent := d.exponent + 9
    d.digits * Nat.pow 10 exponent.toNat / Nat.pow 10 (-exponent).toNat * unit.getD 1

def sleep (args : List String) : Doing Nat := do
  if args.any fun a => a = "infinity" || a = "inf" then hang
  match args, args.find? fun a => (span a).isNone with
  | [], _ => misused "sleep" "missing operand" 1
  | _, some bad => misused "sleep" ("invalid time interval '" ++ bad ++ "'") 1
  | _, none =>
    pass ((args.filterMap span).foldl (· + ·) 0)
    return 0

/-- A path without the slashes at its end. -/
def withoutSlashes (text : String) : List Char :=
  (text.toList.reverse.dropWhile (· = '/')).reverse

/-- The last name of a path. -/
def baseName (text : String) : String :=
  let cs := withoutSlashes text
  if cs.isEmpty then (if text.isEmpty then "" else "/")
  else String.ofList (cs.reverse.takeWhile (· ≠ '/')).reverse

/-- A path without its last name. -/
def dirName (text : String) : String :=
  let cs := withoutSlashes text
  if cs.isEmpty then (if text.isEmpty then "." else "/")
  else if cs.contains '/' then
    let rest := (cs.reverse.dropWhile (· ≠ '/')).dropWhile (· = '/')
    if rest.isEmpty then "/" else String.ofList rest.reverse
  else "."

def basename (args : List String) : Doing Nat :=
  match args with
  | [] => misused "basename" "missing operand" 1
  | [path] => do say (baseName path ++ "\n"); return 0
  | path :: ending :: _ => do
    let name := baseName path
    say ((if name ≠ ending && name.endsWith ending then
      String.ofList (name.toList.take (name.length - ending.length)) else name) ++ "\n")
    return 0

def dirname (args : List String) : Doing Nat := do
  if args.isEmpty then return ← misused "dirname" "missing operand" 1
  for path in args do say (dirName path ++ "\n")
  return 0

def seq (args : List String) : Doing Nat := do
  let range : Option (Int × Int × Int) := match args.map String.toInt? with
    | [some last] => some (1, 1, last)
    | [some first, some last] => some (first, 1, last)
    | [some first, some step, some last] => some (first, step, last)
    | _ => none
  match range with
  | none => match args with
    | [] => misused "seq" "missing operand" 1
    | first :: _ => misused "seq" ("invalid floating point argument: '" ++
        (args.find? (·.toInt?.isNone)).getD first ++ "'") 1
  | some (first, step, last) =>
    let n : Nat := if step = 0 then 0 else ((last - first) / step + 1).toNat
    say (String.join ((List.range n).map fun (i : Nat) => toString (first + i * step) ++ "\n"))
    return 0

def tee (args : List String) : Doing Nat := do
  let mode : OpenMode := if args.contains "-a" then .append else .write
  let mut fds := []
  let mut code := 0
  for file in args.filter (!·.startsWith "-") do
    match ← openPath file mode with
    | .ok c =>
      let fd := spare + fds.length
      setChannel fd (some c)
      fds := fd :: fds
    | .error e =>
      complain ("tee: " ++ file ++ ": " ++ systemErrorText e.number ++ "\n")
      code := 1
  let copies := fds
  let result ← eachPiece 0 (fun bytes => do
    if let .error e ← writeTo 1 bytes then
      complain ("tee: 'standard output': " ++ reasonOf e ++ "\n")
      exit 1
    for fd in copies do let _ ← writeTo fd bytes) pieceLimit none
  if let .error e := result then
    complain ("tee: read error: " ++ reasonOf e ++ "\n")
    if e = badDescriptor then complain ("tee: standard input: " ++ reasonOf e ++ "\n")
    return 1
  return code

/-- How many whole blocks and how many parts of blocks were copied. -/
structure BlockCount where
  whole : Nat := 0
  parts : Nat := 0

def BlockCount.text (c : BlockCount) (what : String) : String :=
  toString c.whole ++ "+" ++ toString c.parts ++ " records " ++ what ++ "\n"

/-- Passes over blocks, and then copies blocks, up to so many, to what has some name. -/
def copyBlocks (target : String) (size : Nat) : Nat → Nat → Option Nat → BlockCount →
    Doing (Except SystemError BlockCount)
  | 0, _, _, _ => hang
  | fuel + 1, skipped, most, count => do
    if skipped = 0 && most = some 0 then return .ok count
    match ← readFrom 0 size false with
    | .error e => return .error e
    | .ok [] => return .ok count
    | .ok bytes =>
      if 0 < skipped then copyBlocks target size fuel (skipped - 1) most count
      else
        if let .error e ← writeTo 1 bytes then
          complain ("dd: error writing '" ++ target ++ "': " ++ reasonOf e ++ "\n")
          if e = badDescriptor then
            complain ("dd: closing output file '" ++ target ++ "': " ++ reasonOf e ++ "\n")
          exit 1
        copyBlocks target size fuel 0 (most.map (· - 1))
          (if bytes.length < size then { count with parts := count.parts + 1 }
            else { count with whole := count.whole + 1 })

/-- Copies blocks. What is told of that in the end goes without the time that it took. -/
def dd (args : List String) : Doing Nat := do
  let value (name : String) : Option String :=
    (args.findSome? fun a => if a.startsWith (name ++ "=") then
      some (String.ofList (a.toList.drop (name.length + 1))) else none)
  let size := max 1 (((value "bs" <|> value "ibs").bind amount).getD 512)
  let openFor (name : String) (mode : OpenMode) (fd : Nat) : Doing (Option PathError) := do
    match value name with
    | none => return none
    | some file => match ← openPath file mode with
      | .ok c => setChannel fd (some c); return none
      | .error e =>
        complain ("dd: failed to open '" ++ file ++ "': " ++ systemErrorText e.number ++ "\n")
        return some e
  if (← openFor "if" .read 0).isSome || (← openFor "of" .write 1).isSome then return 1
  let target := (value "of").getD "standard output"
  match ← copyBlocks target size pieceLimit (((value "skip").bind amount).getD 0)
      ((value "count").bind amount) {} with
  | .ok count =>
    if value "status" = some "noxfer" then complain (count.text "in" ++ count.text "out")
    return 0
  | .error e =>
    complain ("dd: error reading 'standard input': " ++ reasonOf e ++ "\n")
    return 1

/-- Writes a block again and again. -/
def repeatBlock (block : Bytes) : Nat → Doing Nat
  | 0 => hang
  | fuel + 1 => do
    draw block.length
    put block
    repeatBlock block fuel

/-- Writes a line again and again. -/
def yes (args : List String) : Doing Nat :=
  let line := Text.utf8 (" ".intercalate (if args.isEmpty then ["y"] else args) ++ "\n")
  repeatBlock (List.replicate (max 1 (headPiece / line.length)) line).flatten pieceLimit

def printf (args : List String) : Doing Nat := do
  match args with
  | [] => complain "printf: missing operand\n"; return 1
  | format :: rest =>
    let f := Format.printf (Text.utf8 format) (rest.map Text.utf8)
    put f.bytes
    for problem in f.problems do complain ("printf: " ++ problem ++ "\n")
    return if f.problems.isEmpty then 0 else 1

/-- The `echo` that is no part of the shell: escapes are not resolved. -/
def echo (args : List String) : Doing Nat := do
  let (ending, args) := match args with
    | "-n" :: rest => ("", rest)
    | args => ("\n", args)
  say (" ".intercalate args ++ ending)
  return 0

/-- A condition under one of its two names. With the name `[` a `]` has to end it. -/
def condition (name : String) (args : List String) : Doing Nat := do
  let closed := name ≠ "[" || args.getLast? = some "]"
  if !closed then
    complain "[: missing ']'\n"
    return 2
  let s ← get
  let scene : ConditionScene := { files := s.files, dir := s.me.dir, behind := s.behind }
  match Condition.answer scene (if name = "[" then args.dropLast else args) with
  | .ok true => return 0
  | .ok false => return 1
  | .error why => complain (name ++ ": " ++ why ++ "\n"); return 2

/-- Sends a signal to processes. -/
def kill (args : List String) : Doing Nat := do
  let (signal, targets) := match args with
    | "-s" :: name :: rest => (signalNumber name, rest)
    | arg :: rest => match arg.toList with
      | '-' :: name => (signalNumber (String.ofList name), rest)
      | _ => (some 15, args)
    | [] => (some 15, [])
  match signal with
  | none => complain ("kill: " ++ args.headD "" ++ ": invalid signal\n"); return 1
  | some signal =>
    let mut code := 0
    for target in targets do
      unless ← send (target.toNat?.getD 0) signal do
        complain ("kill: (" ++ target ++ "): No such process\n")
        code := 1
    return code

end Tool

end GitSteward.Host
