-- The programs of a machine that take texts line by line: they sort, choose and cut lines.
import GitSteward.Host.Tool

namespace GitSteward.Host

namespace Tool

open Doing

/-- The lines of bytes, without the ends of lines. -/
def linesOf (bytes : Bytes) : List Bytes :=
  let parts := bytes.splitOn 10
  if parts.getLast? = some [] then parts.dropLast else parts

def unlines (lines : List Bytes) : Bytes := lines.flatMap (· ++ [10])

/-- All that files hold, and the code of those that cannot be read. -/
def wholeInput (words : FileWords) (files : List String) : Doing (Nat × Bytes) := do
  let mut code := 0
  let mut gathered : Queue := .empty
  for file in inputsOf files do
    let (bytes, result) ← withFile words file [] readAll
    gathered := gathered.append bytes
    code := max code result
  return (code, gathered.bytes)

/-- The number that a line begins with. -/
def leadingNumber (line : Bytes) : Int :=
  let cs := (Text.lossy line).toList.dropWhile fun c => c = ' ' || c = '\t'
  let (negative, cs) := match cs with
    | '-' :: cs => (true, cs)
    | cs => (false, cs)
  let n : Int := Decimal.ofDigits (cs.takeWhile Char.isDigit)
  if negative then -n else n

/-- Whether bytes come first in the order of bytes, or are the same. -/
def bytesLe : Bytes → Bytes → Bool
  | [], _ => true
  | _ :: _, [] => false
  | a :: as, b :: bs => a < b || (a = b && bytesLe as bs)

/-- Lines without those that are the same as the one before. -/
def dropRepeated : List Bytes → List Bytes
  | a :: b :: rest => if a = b then dropRepeated (b :: rest) else a :: dropRepeated (b :: rest)
  | lines => lines

def sort (args : List String) : Doing Nat := do
  let options := letters args
  let (code, bytes) ← wholeInput
    ⟨fun file reason => "sort: cannot read: " ++ file ++ ": " ++ reason ++ "\n",
      fun file reason => "sort: read failed: " ++ file ++ ": " ++ reason ++ "\n"⟩
    (args.filter (!·.startsWith "-"))
  let le (a b : Bytes) : Bool :=
    if options.contains 'n' then
      leadingNumber a < leadingNumber b || (leadingNumber a = leadingNumber b && bytesLe a b)
    else bytesLe a b
  let sorted := (linesOf bytes).mergeSort fun a b => if options.contains 'r' then le b a else le a b
  if code ≠ 0 then return 2
  put (unlines (if options.contains 'u' then dropRepeated sorted else sorted))
  return 0

/-- Lines with how often each one is repeated. -/
def runsOf : List Bytes → List (Nat × Bytes)
  | [] => []
  | line :: rest => match runsOf rest with
    | (n, other) :: runs => if line = other then (n + 1, other) :: runs else (1, line) :: (n, other) :: runs
    | [] => [(1, line)]

def uniq (args : List String) : Doing Nat := do
  let options := letters args
  let plain := FileWords.plain "uniq"
  let (code, bytes) ← wholeInput { plain with
    unread file reason := "uniq: error reading '" ++ file ++ "': " ++ reason ++ "\n" }
    (args.filter (!·.startsWith "-"))
  for (n, line) in runsOf (linesOf bytes) do
    if (!options.contains 'd' || 1 < n) && (!options.contains 'u' || n = 1) then
      if options.contains 'c' then
        let digits := toString n
        say (String.ofList (List.replicate (7 - digits.length) ' ') ++ digits ++ " ")
      put (line ++ [10])
  return code

def tac (args : List String) : Doing Nat := do
  let (code, bytes) ← wholeInput (.plain "tac") args
  put (unlines (linesOf bytes).reverse)
  return code

/-! ## Cutting -/

/-- The ranges of a list such as `1,3-5,7-`. The end of the last one may be left open. -/
def ranges (text : String) : Option (List (Nat × Option Nat)) :=
  (text.splitOn ",").mapM fun part =>
    match part.splitOn "-" with
    | [one] => one.toNat?.map fun n => (n, some n)
    | ["", last] => last.toNat?.map fun n => (1, some n)
    | [first, ""] => first.toNat?.map fun n => (n, none)
    | [first, last] => do return (← first.toNat?, some (← last.toNat?))
    | _ => none

/-- Whether a place is in one of the ranges. -/
def inRanges (rs : List (Nat × Option Nat)) (n : Nat) : Bool :=
  rs.any fun r => r.1 ≤ n && r.2.all (n ≤ ·)

/-- The items of a list at places in ranges. -/
def chosen (rs : List (Nat × Option Nat)) (items : List α) : List α :=
  (items.zipIdx 1).filterMap fun p => if inRanges rs p.2 then some p.1 else none

/-- The value of an option that is a letter, attached or not, and the other arguments. -/
def optionValue (letter : Char) : List String → Option String × List String
  | [] => (none, [])
  | arg :: rest =>
    match arg.toList with
    | '-' :: c :: value =>
      if c = letter then
        if value.isEmpty then (rest.head?, rest.drop 1) else (some (String.ofList value), rest)
      else
        let (found, others) := optionValue letter rest
        (found, arg :: others)
    | _ =>
      let (found, others) := optionValue letter rest
      (found, arg :: others)

def cut (args : List String) : Doing Nat := do
  let (delimiter, args) := optionValue 'd' args
  let (fields, args) := optionValue 'f' args
  let (bytes, args) := optionValue 'c' args
  let (more, args) := optionValue 'b' args
  let separator := ((delimiter.map Text.utf8).getD [9]).headD 9
  let files := args.filter fun a => a = "-" || !a.startsWith "-"
  let part? : Option (Bytes → Option Bytes) :=
    match fields.bind ranges, (bytes <|> more).bind ranges with
    | some rs, _ => some fun line =>
      let parts := line.splitOn separator
      if parts.length = 1 then if args.contains "-s" then none else some line
      else some (List.intercalate [separator] (chosen rs parts))
    | none, some rs => some fun line => some (chosen rs line)
    | none, none => none
  match part? with
  | none => misused "cut" "you must specify a list of bytes, characters, or fields" 1
  | some part =>
    let mut code := 0
    for file in inputsOf files do
      let (content, result) ← withFile (.plain "cut") file [] readAll
      put (unlines ((linesOf content).filterMap part))
      code := max code result
    closing "cut" files code

/-! ## Searching -/

/-- One thing that a search looks for. -/
inductive Atom where
  | any
  | byte (b : UInt8)
  | oneOf (negated : Bool) (members : List (UInt8 × UInt8))
  | lineStart
  | lineEnd
deriving Repr, DecidableEq, Inhabited

/-- Things that follow each other, with the least and perhaps the most number of times. -/
abbrev Search := List (Atom × Nat × Option Nat)

/-- Whether a byte is one of those that an atom stands for. -/
def Atom.fits (a : Atom) (b : UInt8) : Bool :=
  match a with
  | any => true
  | byte c => b = c
  | oneOf negated members => (members.any fun m => m.1 ≤ b && b ≤ m.2) != negated
  | lineStart | lineEnd => false

/-- What follows a match at the beginning of bytes, if there is one. -/
def Search.after (atStart : Bool) : Nat → Search → Bytes → Option Bytes
  | 0, _, _ => none
  | _ + 1, [], bytes => some bytes
  | fuel + 1, (.lineStart, _, _) :: rest, bytes =>
    if atStart then Search.after atStart fuel rest bytes else none
  | fuel + 1, (.lineEnd, _, _) :: rest, bytes =>
    if bytes.isEmpty then Search.after atStart fuel rest bytes else none
  | fuel + 1, (a, least, most) :: rest, bytes =>
    let longer := match bytes with
      | b :: more =>
        if a.fits b && most.all (0 < ·) then
          Search.after false fuel ((a, least - 1, most.map (· - 1)) :: rest) more
        else none
      | [] => none
    match longer with
    | some found => some found
    | none => if least = 0 then Search.after atStart fuel rest bytes else none

/-- The members of a set in brackets, up to its end. -/
def setMembers (first : Bool) : Nat → Bytes → List (UInt8 × UInt8) →
    List (UInt8 × UInt8) × Bytes
  | 0, rest, done => (done, rest)
  | _ + 1, [], done => (done, [])
  | fuel + 1, b :: rest, done =>
    if b = 93 && !first then (done, rest)
    else match rest with
      | 45 :: c :: more =>
        if c = 93 then setMembers false fuel rest ((b, b) :: done)
        else setMembers false fuel more ((b, c) :: done)
      | _ => setMembers false fuel rest ((b, b) :: done)

/-- Changes how often the last thing of a search may come, given last to first. -/
def repeatLast (least : Nat) (most : Option Nat) : Search → Search
  | (a, _, _) :: rest => (a, least, most) :: rest
  | [] => []

/-- The searches that a text stands for, one of which has to succeed. In an extended text more
characters have a meaning. -/
def searches (extended : Bool) : Nat → Bytes → Search → List Search
  | 0, _, done => [done.reverse]
  | _ + 1, [], done => [done.reverse]
  | fuel + 1, b :: rest, done =>
    let plain (b : UInt8) (rest : Bytes) := searches extended fuel rest ((.byte b, 1, some 1) :: done)
    let meant (c : Char) : Bool := b = c.toNat.toUInt8
    if meant '.' then searches extended fuel rest ((.any, 1, some 1) :: done)
    else if meant '^' && (extended || done.isEmpty) then
      searches extended fuel rest ((.lineStart, 1, some 1) :: done)
    else if meant '$' && (extended || rest.isEmpty) then
      searches extended fuel rest ((.lineEnd, 1, some 1) :: done)
    else if meant '*' && !done.isEmpty then
      searches extended fuel rest (repeatLast 0 none done)
    else if meant '+' && extended && !done.isEmpty then
      searches extended fuel rest (repeatLast 1 none done)
    else if meant '?' && extended && !done.isEmpty then
      searches extended fuel rest (repeatLast 0 (some 1) done)
    else if meant '|' && extended then done.reverse :: searches extended fuel rest []
    else if meant '[' then
      let (negated, rest) := match rest with
        | 94 :: rest => (true, rest)
        | rest => (false, rest)
      let (members, rest) := setMembers true (rest.length + 1) rest []
      searches extended fuel rest ((.oneOf negated members, 1, some 1) :: done)
    else if meant '\\' then
      match rest with
      | 124 :: rest =>
        if extended then plain 124 rest else done.reverse :: searches extended fuel rest []
      | c :: rest => plain c rest
      | [] => plain b rest
    else plain b rest

/-- The parts of a line that a search finds, one after the other. -/
def matchesIn (ss : List Search) : Nat → Bool → Bytes → List Bytes
  | 0, _, _ => []
  | fuel + 1, atStart, bytes =>
    let found := ss.filterMap (Search.after atStart (4 * bytes.length + 100) · bytes)
    match (found.map fun rest => bytes.length - rest.length).max? with
    | some (n + 1) => bytes.take (n + 1) :: matchesIn ss fuel false (bytes.drop (n + 1))
    | some 0 => [] :: match bytes with
      | [] => []
      | _ :: rest => matchesIn ss fuel false rest
    | none => match bytes with
      | [] => []
      | _ :: rest => matchesIn ss fuel false rest

def lower (bytes : Bytes) : Bytes :=
  bytes.map fun b => if 65 ≤ b && b ≤ 90 then b + 32 else b

def grep (args : List String) : Doing Nat := do
  let options := letters args
  match args.filter (!·.startsWith "-") with
  | [] =>
    complain ("Usage: grep [OPTION]... PATTERNS [FILE]...\n" ++
      "Try 'grep --help' for more information.\n")
    return 2
  | pattern :: files =>
    let fold (bytes : Bytes) : Bytes := if options.contains 'i' then lower bytes else bytes
    let texts := (fold (Text.utf8 pattern)).splitOn 10
    let ss := texts.flatMap fun text =>
      if options.contains 'F' then [text.map fun b => (Atom.byte b, 1, some 1)]
      else searches (options.contains 'E') (text.length + 1) text []
    let plain := FileWords.plain "grep"
    let (code, bytes) ← wholeInput { plain with
      unread file := plain.unread (if file = "-" then "(standard input)" else file) } files
    let isWhole (line : Bytes) : Bool :=
      ss.any fun s => Search.after true (4 * line.length + 100) (s ++ [(.lineEnd, 1, some 1)]) line
        = some []
    let has (line : Bytes) : Bool :=
      if options.contains 'x' then isWhole line
      else !(matchesIn ss (line.length + 1) true line).isEmpty
    let kept := ((linesOf bytes).zipIdx 1).filter fun l =>
      has (fold l.1) != options.contains 'v'
    if options.contains 'c' then say (toString kept.length ++ "\n")
    else if !options.contains 'q' then
      for (line, n) in kept do
        if options.contains 'n' then say (toString n ++ ":")
        if options.contains 'o' then
          put (unlines ((matchesIn ss (line.length + 1) true (fold line)).filter (!·.isEmpty)))
        else put (line ++ [10])
    return if code ≠ 0 then 2 else if kept.isEmpty then 1 else 0

end Tool

end GitSteward.Host
