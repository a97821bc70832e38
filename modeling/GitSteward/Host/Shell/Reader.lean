-- Reading scripts of the shell. The text is read from left to right, one command at a time.
import GitSteward.Host.Shell.Script

namespace GitSteward.Host.Shell

/-- What is left of a script, and the number of the line there. -/
structure Remaining where
  rest : List Char
  line : Nat := 1
  /-- the lines that have been taken out after the current one -/
  taken : Nat := 0
deriving Repr, Inhabited

abbrev Reader := StateT Remaining (Except ScriptError)

namespace Reader

def fail (text : String) : Reader α := do throw ⟨(← get).line, text⟩

def peek : Reader (Option Char) := do return (← get).rest.head?

def peekMany (n : Nat) : Reader (List Char) := do return (← get).rest.take n

/-- Goes past so many characters. -/
def skip (n : Nat) : Reader Unit :=
  modify fun s =>
    let ends := (s.rest.take n).count '\n'
    if ends = 0 then { s with rest := s.rest.drop n }
    else { rest := s.rest.drop n, line := s.line + ends + s.taken }

/-- Whether a character ends a word. -/
def endsWord (c : Char) : Bool := [' ', '\t', '\n', ';', '&', '|', '<', '>', '(', ')'].contains c

/-- Goes past blanks, joined lines and comments. -/
def skipBlanks : Nat → Reader Unit
  | 0 => return ()
  | fuel + 1 => do
    match (← get).rest with
    | ' ' :: _ | '\t' :: _ => skip 1; skipBlanks fuel
    | '\\' :: '\n' :: _ => skip 2; skipBlanks fuel
    | '#' :: rest => skip (1 + (rest.takeWhile (· ≠ '\n')).length)
    | _ => return ()

/-- What comes next, as it is told in errors. Reserved words are told as such only where they
have a meaning. -/
def nextToken (keywords : List String) : Reader String := do
  let rest := (← get).rest
  let quote (s : String) : String := "\x22" ++ s ++ "\x22"
  return match rest with
  | [] => "end of file"
  | '\n' :: _ => "newline"
  | '&' :: '&' :: _ => quote "&&"
  | '|' :: '|' :: _ => quote "||"
  | ';' :: ';' :: _ => quote ";;"
  | '<' :: _ | '>' :: _ => "redirection"
  | c :: _ =>
    if endsWord c then quote c.toString
    else
      let word := String.ofList (rest.takeWhile (!endsWord ·))
      if keywords.contains word then quote word else "word"

/-- Complains of what comes next. The end of a line counts to the next one. -/
def unexpected (keywords : List String) (expecting : Option String) : Reader α := do
  let found ← nextToken keywords
  if (← peek) = some '\n' then modify fun s => { s with line := s.line + 1 }
  fail ("Syntax error: " ++ found ++ " unexpected" ++ match expecting with
    | some text => " (expecting " ++ text ++ ")"
    | none => "")

/-- Goes past blanks and empty lines. -/
def skipLines : Nat → Reader Unit
  | 0 => return ()
  | fuel + 1 => do
    skipBlanks (fuel + 1)
    if (← peek) = some '\n' then
      skip 1
      skipLines fuel

/-- The words that have a meaning where a command may begin. -/
def reserved : List String :=
  ["!", "\x7b", "\x7d", "case", "do", "done", "elif", "else", "esac", "fi", "for", "if", "in", "then",
    "until", "while"]

/-- The reserved word that comes next, if one does. -/
def nextReserved : Reader (Option String) := do
  let next := String.ofList ((← get).rest.takeWhile (!endsWord ·))
  return if reserved.contains next then some next else none

/-- Goes past a word that has to come next. -/
def expect (fuel : Nat) (text : String) : Reader Unit := do
  skipLines fuel
  let next := (← get).rest.takeWhile (!endsWord ·)
  if next = text.toList || (text = ")" && (← peek) = some ')') then skip text.length
  else unexpected reserved (some ("\x22" ++ text ++ "\x22"))

/-! ## Words -/

/-- Takes characters while they pass a test. -/
def takeWhile (p : Char → Bool) : Reader (List Char) := do
  let taken := (← get).rest.takeWhile p
  skip taken.length
  return taken

/-- The text up to the next backquote. -/
def backquoted : Nat → List Char → Reader (List Char)
  | 0, _ => fail "Syntax error: EOF in backquote substitution"
  | fuel + 1, done => do
    match (← get).rest with
    | [] => fail "Syntax error: EOF in backquote substitution"
    | '\\' :: c :: _ =>
      skip 2
      backquoted fuel (if c = '\\' || c = '$' || c = '\x60' then c :: done else c :: '\\' :: done)
    | '\x60' :: _ => skip 1; return done.reverse
    | c :: _ => skip 1; backquoted fuel (c :: done)

/-- The parameters that have no names but signs. -/
def isSign (c : Char) : Bool := "@*#?$!-".contains c

/-- The use of a parameter that follows its name in braces. -/
def parameterUse : Reader ParameterUse := do
  match (← peekMany 2) with
  | ':' :: '-' :: _ => skip 2; return .default true
  | ':' :: '=' :: _ => skip 2; return .assign true
  | ':' :: '?' :: _ => skip 2; return .require true
  | ':' :: '+' :: _ => skip 2; return .alternative true
  | ':' :: '\x7d' :: _ => skip 1; return .plain
  | '\x7d' :: _ => return .plain
  | '-' :: _ => skip 1; return .default false
  | '=' :: _ => skip 1; return .assign false
  | '?' :: _ => skip 1; return .require false
  | '+' :: _ => skip 1; return .alternative false
  | '%' :: '%' :: _ => skip 2; return .withoutEnd true
  | '%' :: _ => skip 1; return .withoutEnd false
  | '#' :: '#' :: _ => skip 2; return .withoutStart true
  | '#' :: _ => skip 1; return .withoutStart false
  | _ => return .unknown

/-- A parameter in braces and its use, up to the word that follows. A number sign is a parameter
itself, or asks how long the parameter after it is. -/
def braced : Reader (String × ParameterUse) := do
  let name : Reader String := do
    return String.ofList (← takeWhile (if ((← peek).map Char.isDigit).getD false then Char.isDigit
      else isNameChar))
  match (← get).rest with
  | '#' :: c :: rest =>
    if isNameChar c then
      skip 1
      let name ← name
      return (name, if (← peek) = some '\x7d' then .length else .unknown)
    else if c ≠ '\x7d' && rest.head? = some '\x7d' then
      skip 2
      return (c.toString, if isSign c then .length else .unknown)
    else
      skip 1
      return ("#", ← parameterUse)
  | c :: _ =>
    if isNameChar c then
      let name ← name
      return (name, ← parameterUse)
    else if isSign c then
      skip 1
      return (c.toString, ← parameterUse)
    else return ("", .unknown)
  | [] => fail "Syntax error: Missing '\x7d'"

/-- What a run of pieces ends at. -/
inductive PieceEnd where
  /-- a character that ends a word -/
  | word
  /-- a double quote -/
  | quote
  /-- a closing brace, inside double quotes or not -/
  | brace (quoted : Bool)
  /-- the end of a document, in which double quotes have no meaning -/
  | document
  /-- two closing parentheses, in front of which so many others are to be closed -/
  | expression (opened : Nat)
deriving DecidableEq

def PieceEnd.quoted : PieceEnd → Bool
  | word => false
  | quote => true
  | brace quoted => quoted
  | document => true
  | expression _ => true

def PieceEnd.isExpression : PieceEnd → Bool
  | expression _ => true
  | _ => false

/-- The end after a character of an expression, which may be a parenthesis. -/
def PieceEnd.after (c : Char) : PieceEnd → PieceEnd
  | expression opened =>
    if c = '(' then expression (opened + 1)
    else if c = ')' then expression (opened - 1)
    else expression opened
  | ending => ending

/-- Adds a character to pieces, last to first. -/
def addChar (done : List Piece) (c : Char) (quoted : Bool) : List Piece :=
  match done with
  | .text s q :: rest =>
    if q = quoted then .text (s.push c) q :: rest else .text c.toString quoted :: done
  | _ => .text c.toString quoted :: done

/-- Reads something from a text of its own, which begins on some line. -/
def within (text : List Char) (line : Nat) (reader : Reader α) : Reader α := do
  let after ← get
  set ({ rest := text, line } : Remaining)
  let found ← reader
  set after
  return found

/-- The pieces up to an end. `lists` reads the commands whose output is a piece. Double quotes leave a
mark, so that there is a word even if nothing is in them, but not around all arguments alone. -/
def pieces (lists : Reader Command) (ending : PieceEnd) : Nat → List Piece → Reader Word
  | 0, _ => fail "Syntax error: word too long"
  | fuel + 1, done => do
    let quoted := ending.quoted
    match (← get).rest with
    | [] =>
      match ending with
      | .word | .document => return done.reverse
      | .expression _ => fail "Syntax error: Missing '))'"
      | .quote => fail "Syntax error: Unterminated quoted string"
      | .brace _ => fail "Syntax error: Missing '\x7d'"
    | c :: rest =>
      let stops := match ending with
        | .word => endsWord c
        | .quote => c = '\x22'
        | .brace _ => c = '\x7d'
        | .expression opened => opened = 0 && c = ')' && rest.head? = some ')'
        | .document => false
      if stops then
        if ending ≠ .word then skip (if ending.isExpression then 2 else 1)
        return done.reverse
      else match c, rest with
        | '\\', '\n' :: _ => skip 2; pieces lists ending fuel done
        | '\\', d :: _ =>
          skip 2
          if quoted && (!(['$', '\x60', '\x22', '\\', '\x7d'].contains d) ||
              (ending = .document && (d = '\x22' || d = '\x7d'))) then
            pieces lists ending fuel (addChar (addChar done '\\' true) d true)
          else pieces lists ending fuel (addChar done d true)
        | '\x27', rest =>
          if quoted then
            skip 1
            pieces lists ending fuel (addChar done '\x27' true)
          else
            let inside := rest.takeWhile (· ≠ '\x27')
            if inside.length = rest.length then
              skip (rest.length + 1)
              fail "Syntax error: Unterminated quoted string"
            skip (inside.length + 2)
            pieces lists ending fuel (.text (String.ofList inside) true :: done)
        | '\x22', _ =>
          skip 1
          if ending = .document || ending.isExpression then
            pieces lists ending fuel (addChar done '\x22' true)
          else
            let inside ← pieces lists .quote fuel []
            let mark : List Piece := match inside with
              | [.parameter "@" .plain [] _] => []
              | _ => [.text "" true]
            pieces lists ending fuel (inside.reverse ++ mark ++ done)
        | '\x60', _ =>
          skip 1
          let command ← within (← backquoted fuel []) 1 lists
          pieces lists ending fuel (.output command quoted :: done)
        | '$', '(' :: '(' :: _ =>
          skip 3
          let body ← pieces lists (.expression 0) fuel []
          pieces lists ending fuel (.arithmetic body quoted :: done)
        | '$', '(' :: _ =>
          skip 2
          let command ← lists
          expect fuel ")"
          pieces lists ending fuel (.output command quoted :: done)
        | '$', '\x7b' :: _ =>
          skip 2
          let (name, use) ← braced
          let word ← pieces lists (.brace (quoted && !use.hasPattern)) fuel []
          pieces lists ending fuel (.parameter name use word quoted :: done)
        | '$', d :: _ =>
          if isNameStart d then
            skip 1
            let name ← takeWhile isNameChar
            pieces lists ending fuel (.parameter (String.ofList name) .plain [] quoted :: done)
          else if d.isDigit || isSign d then
            skip 2
            pieces lists ending fuel (.parameter d.toString .plain [] quoted :: done)
          else
            skip 1
            pieces lists ending fuel (addChar done '$' quoted)
        | c, _ => skip 1; pieces lists (ending.after c) fuel (addChar done c quoted)

def word (lists : Reader Command) (fuel : Nat) : Reader Word := pieces lists .word fuel []

/-! ## Commands -/

/-- The operator of a redirection that comes next. -/
inductive RedirectionOperator where
  | plain (kind : RedirectionKind) (reads : Bool)
  /-- a document follows on the next lines, without tabs in front of them or with -/
  | document (strips : Bool)

def redirectionOperator : Reader (Option RedirectionOperator) := do
  match (← peekMany 3) with
  | '<' :: '<' :: '-' :: _ => skip 3; return some (.document true)
  | '<' :: '<' :: _ => skip 2; return some (.document false)
  | '<' :: '&' :: _ => skip 2; return some (.plain .duplicate true)
  | '<' :: '>' :: _ => skip 2; return some (.plain .both true)
  | '<' :: _ => skip 1; return some (.plain .input true)
  | '>' :: '>' :: _ => skip 2; return some (.plain .append false)
  | '>' :: '&' :: _ => skip 2; return some (.plain .duplicate false)
  | '>' :: '|' :: _ => skip 2; return some (.plain .overwrite false)
  | '>' :: _ => skip 1; return some (.plain .output false)
  | _ => return none

/-- Unquoted text in front of other pieces, or at the end of a word, with its tildes resolved. One
stands for the home directory at the beginning, and in assignments also after a colon, if no name
follows it. -/
def homesIn (assigned atEnd : Bool) : Bool → List Char → List Char → Word
  | _, [], done => if done.isEmpty then [] else [.text (String.ofList done.reverse) false]
  | start, c :: rest, done =>
    let ends := match rest with
      | [] => atEnd
      | d :: _ => d = '/' || (assigned && d = ':')
    if start && c = '~' && ends then
      (if done.isEmpty then [] else [.text (String.ofList done.reverse) false]) ++
        .home :: homesIn assigned atEnd false rest []
    else homesIn assigned atEnd (assigned && c = ':') rest (c :: done)

/-- A word with its tildes resolved. -/
def withHomes (assigned : Bool) : Word → Word
  | .text s false :: rest => homesIn assigned rest.isEmpty true s.toList [] ++ rest
  | w => w

/-- The text of the quoted and unquoted parts of a word, and whether some of it is quoted. -/
def literal (w : Word) : String × Bool :=
  (String.join (w.map fun
    | .text s _ => s
    | _ => ""), w.any fun
    | .text _ quoted => quoted
    | _ => false)

/-- The lines up to the one that ends a document, and the lines after it. -/
def documentLines (strips : Bool) (last : List Char) : Nat → List Char → List Char × List Char
  | 0, rest => ([], rest)
  | _ + 1, [] => ([], [])
  | fuel + 1, rest =>
    let line := rest.takeWhile (· ≠ '\n')
    let after := rest.drop line.length
    let line := if strips then line.dropWhile (· = '\t') else line
    if line = last then ([], after.drop 1)
    else
      let (others, rest) := documentLines strips last fuel (after.drop 1)
      (line ++ after.take 1 ++ others, rest)

/-- Takes a document out of the lines after the current one. -/
def takeDocument (strips : Bool) (last : List Char) : Reader (List Char) := do
  let s ← get
  let current := s.rest.takeWhile (· ≠ '\n')
  let after := (s.rest.drop current.length).drop 1
  let (document, rest) := documentLines strips last (after.length + 1) after
  let taken := after.count '\n' - rest.count '\n'
  set { s with rest := current ++ '\n' :: rest, taken := s.taken + taken }
  return document

/-- A redirection, if one comes next. -/
def redirection (lists : Reader Command) (fuel : Nat) : Reader (Option Redirection) := do
  let start ← get
  let digits ← takeWhile Char.isDigit
  let target : Reader Word := do
    skipBlanks fuel
    if ((← peek).map endsWord).getD true then unexpected [] none
    return withHomes false (← word lists fuel)
  let number (default : Nat) : Nat :=
    if digits.isEmpty then default else digits.foldl (fun n c => 10 * n + (c.toNat - 48)) 0
  match ← redirectionOperator with
  | none => set start; return none
  | some (.plain kind reads) =>
    return some { fd := number (if reads then 0 else 1), kind, target := ← target }
  | some (.document strips) =>
    let (last, quoted) := literal (← target)
    let before := (← get).taken
    let document ← takeDocument strips last.toList
    let line := (← get).line + 1 + before
    let target ← if quoted then pure [Piece.text (String.ofList document) true]
      else within document line (pieces lists .document (2 * document.length + 100) [])
    return some { fd := number 0, kind := .document, target }

def redirections (lists : Reader Command) (fuel : Nat) : Nat → Reader (List Redirection)
  | 0 => return []
  | n + 1 => do
    skipBlanks fuel
    match ← redirection lists fuel with
    | none => return []
    | some r => return r :: (← redirections lists fuel n)

/-- The name and the value of a word that makes an assignment. -/
def assignmentOf (w : Word) : Option (String × Word) :=
  match w with
  | .text s false :: rest =>
    let name := s.toList.takeWhile isNameChar
    match s.toList.drop name.length with
    | '=' :: value =>
      if name.head?.any isNameStart then
        some (String.ofList name,
          if value.isEmpty then rest else .text (String.ofList value) false :: rest)
      else none
    | _ => none
  | _ => none

/-- A function whose name has been read, up to its body. -/
def definition (body : Reader Command) (fuel : Nat) (name : Word) : Reader Command := do
  skip 1
  skipBlanks fuel
  if (← peek) ≠ some ')' then unexpected [] (some "\x22)\x22")
  skip 1
  match name with
  | [.text name false] =>
    if !isName name || specialBuiltins.contains name then
      fail "Syntax error: Bad function name"
    skipLines fuel
    return .define name (← body)
  | _ => fail "Syntax error: Bad function name"

/-- The rest of a simple command, or a function. `body` reads the body of that. -/
def simple (lists body : Reader Command) :
    Nat → Nat → List (String × Word) → List Word → List Redirection → Reader Command
  | 0, _, _, _, _ => fail "Syntax error: command too long"
  | fuel + 1, line, assignments, words, redirections => do
    skipBlanks (fuel + 1)
    match ← redirection lists (fuel + 1) with
    | some r => simple lists body fuel line assignments words (r :: redirections)
    | none =>
      if ((← peek).map endsWord).getD true then
        match ← peek, assignments, words, redirections with
        | some '(', [], [name], [] => definition body (fuel + 1) name
        | _, _, _, _ =>
          return .simple line assignments.reverse words.reverse redirections.reverse
      else
        let w ← word lists (fuel + 1)
        let isFirst := assignments.isEmpty && words.isEmpty && redirections.isEmpty
        let line ← if isFirst then pure (← get).line else pure line
        match words, assignmentOf w with
        | [], some (name, value) =>
          let assignments := (name, withHomes true value) :: assignments
          simple lists body fuel line assignments words redirections
        | _, _ => simple lists body fuel line assignments (withHomes false w :: words) redirections

/-- Words up to the end of a line or a semicolon. -/
def wordList (lists : Reader Command) : Nat → Reader (List Word)
  | 0 => return []
  | fuel + 1 => do
    skipBlanks (fuel + 1)
    match ← peek with
    | none => return []
    | some c =>
      if endsWord c then return []
      else
        let w ← word lists (fuel + 1)
        return withHomes false w :: (← wordList lists fuel)

/-- The patterns of an arm, up to the parenthesis that closes them. -/
def patterns (lists : Reader Command) : Nat → Reader (List Word)
  | 0 => fail "Syntax error: command too long"
  | fuel + 1 => do
    skipBlanks (fuel + 1)
    if ((← peek).map endsWord).getD true then unexpected [] (some "\x22)\x22")
    let w ← word lists (fuel + 1)
    skipBlanks (fuel + 1)
    match ← peek with
    | some '|' => skip 1; return w :: (← patterns lists fuel)
    | some ')' => skip 1; return [w]
    | _ => unexpected [] (some "\x22)\x22")

mutual

/-- Commands up to something that ends a list of them. There may be none if `empty` says so, or if
nothing follows at all. -/
def list : Nat → Bool → Reader Command
  | 0, _ => fail "Syntax error: command too long"
  | fuel + 1, empty => do
    skipLines (fuel + 1)
    if (← get).rest.isEmpty || (empty && (← atListEnd)) then return .nothing
    let first ← andOr fuel
    skipBlanks (fuel + 1)
    match ← peekMany 2 with
    | '&' :: _ =>
      skip 1
      return (Command.background first).before (← list fuel true)
    | [';', ';'] => return first
    | ';' :: _ =>
      skip 1
      return first.before (← list fuel true)
    | '\n' :: _ => return first.before (← list fuel true)
    | _ => return first
where
  /-- Whether a list of commands ends here. -/
  atListEnd : Reader Bool := do
    match ← peekMany 2 with
    | [] | ')' :: _ | ';' :: ';' :: _ => return true
    | _ =>
      match ← nextReserved with
      | some w => return ["\x7d", "do", "done", "elif", "else", "esac", "fi", "then"].contains w
      | none => return false

/-- Pipelines joined by `&&` and `||`. -/
def andOr : Nat → Reader Command
  | 0 => fail "Syntax error: command too long"
  | fuel + 1 => do
    let first ← pipeline fuel
    andOrRest fuel first

def andOrRest : Nat → Command → Reader Command
  | 0, _ => fail "Syntax error: command too long"
  | fuel + 1, first => do
    skipBlanks (fuel + 1)
    match ← peekMany 2 with
    | ['&', '&'] =>
      skip 2
      skipLines (fuel + 1)
      let second ← pipeline fuel
      andOrRest fuel (.conjunction first second)
    | ['|', '|'] =>
      skip 2
      skipLines (fuel + 1)
      let second ← pipeline fuel
      andOrRest fuel (.disjunction first second)
    | _ => return first

def pipeline : Nat → Reader Command
  | 0 => fail "Syntax error: command too long"
  | fuel + 1 => do
    skipBlanks (fuel + 1)
    if (← nextReserved) = some "!" then
      skip 1
      skipBlanks (fuel + 1)
      if (← nextReserved) = some "!" then unexpected ["!"] none
      return .negation (← pipeline fuel)
    else
      let first ← command fuel
      skipBlanks (fuel + 1)
      match ← peekMany 2 with
      | ['|', '|'] => return first
      | '|' :: _ =>
        skip 1
        skipLines (fuel + 1)
        return .pipeline first (← pipeline fuel)
      | _ => return first

/-- The part of a choice from its condition on. -/
def choiceFrom : Nat → Reader Command
  | 0 => fail "Syntax error: command too long"
  | fuel + 1 => do
    let condition ← list fuel false
    expect fuel "then"
    let yes ← list fuel false
    skipLines fuel
    match ← nextReserved with
    | some "elif" => skip 4; return .choice condition yes (← choiceFrom fuel)
    | some "else" =>
      skip 4
      let no ← list fuel false
      expect fuel "fi"
      return .choice condition yes no
    | _ =>
      expect fuel "fi"
      return .choice condition yes .nothing

/-- The arms of a selection, up to its end. -/
def arms : Nat → Reader (List (List Word × Command))
  | 0 => fail "Syntax error: command too long"
  | fuel + 1 => do
    skipLines fuel
    if (← nextReserved) = some "esac" then
      skip 4
      return []
    else
      if (← peek) = some '(' then skip 1
      let ps ← patterns (list fuel true) fuel
      let body ← list fuel true
      skipLines fuel
      if (← peekMany 2) = [';', ';'] then skip 2
      else if (← nextReserved) ≠ some "esac" then unexpected reserved (some "\x22;;\x22")
      return (ps, body) :: (← arms fuel)

/-- A command that is no list and no pipeline. -/
def command : Nat → Reader Command
  | 0 => fail "Syntax error: command too long"
  | fuel + 1 => do
    skipBlanks (fuel + 1)
    let line := (← get).line
    let compound : Option Command ← match ← peek with
      | some '(' =>
        skip 1
        let body ← list fuel false
        expect fuel ")"
        pure (some (.subshell body))
      | some c =>
        if [';', '&', '|', ')', '\n'].contains c then unexpected [] none
        else match ← nextReserved with
          | some "\x7b" =>
            skip 1
            let body ← list fuel false
            expect fuel "\x7d"
            pure (some (.group body))
          | some "if" => skip 2; pure (some (← choiceFrom fuel))
          | some "while" =>
            skip 5
            let condition ← list fuel false
            expect fuel "do"
            let body ← list fuel false
            expect fuel "done"
            pure (some (.loop false condition body))
          | some "until" =>
            skip 5
            let condition ← list fuel false
            expect fuel "do"
            let body ← list fuel false
            expect fuel "done"
            pure (some (.loop true condition body))
          | some "for" =>
            skip 3
            skipBlanks fuel
            let name := String.ofList (← takeWhile (!endsWord ·))
            if !isName name then fail "Syntax error: Bad for loop variable"
            skipLines fuel
            let words ← if (← nextReserved) = some "in" then
              skip 2
              pure (some (← wordList (list fuel true) fuel))
            else pure none
            match ← peekMany 2 with
            | [';', ';'] => if words.isSome then unexpected [] none
            | ';' :: _ => skip 1
            | '\n' :: _ => pure ()
            | _ => if words.isSome then unexpected [] none
            expect fuel "do"
            let body ← list fuel false
            expect fuel "done"
            pure (some (.each name words body))
          | some "case" =>
            skip 4
            skipBlanks fuel
            if ((← peek).map endsWord).getD true then unexpected [] (some "word")
            let w := withHomes false (← word (list fuel true) fuel)
            expect fuel "in"
            pure (some (.select w (← arms fuel)))
          | some w => unexpected [w] none
          | none => pure none
      | none => unexpected [] none
    match compound with
    | some c =>
      return .at line (c.under (← redirections (list fuel true) fuel fuel))
    | none => simple (list fuel true) (command fuel) (fuel + 1) line [] [] []

end

/-- The commands of a line, up to its end. -/
def lineCommands : Nat → Reader Command
  | 0 => fail "Syntax error: command too long"
  | fuel + 1 => do
    let first ← andOr fuel
    skipBlanks fuel
    let (first, more) ← match ← peekMany 2 with
      | '&' :: _ => skip 1; pure (Command.background first, true)
      | ';' :: ';' :: _ | ')' :: _ => unexpected [] none
      | ';' :: _ => skip 1; pure (first, true)
      | _ => pure (first, false)
    skipBlanks fuel
    match ← peek with
    | none => return first
    | some '\n' => return first
    | some _ =>
      if more then return .sequence first (← lineCommands fuel)
      else unexpected reserved none

end Reader

/-- A text that takes words in, as a document does. -/
def documentWord (text : String) : Except ScriptError Word :=
  let fuel := 2 * text.length + 100
  ((Reader.pieces (Reader.list fuel true) .document fuel []).run { rest := text.toList }).map (·.1)

/-- The next line of commands, and what is left of the script after it. -/
def nextLine (r : Remaining) : Except ScriptError (Option Command × Remaining) :=
  let fuel := 2 * r.rest.length + 100
  let read : Reader (Option Command) := do
    Reader.skipLines fuel
    if (← get).rest.isEmpty then return none
    return some (← Reader.lineCommands fuel)
  read.run r

end GitSteward.Host.Shell
