-- The conditions of `test`: comparisons of texts and numbers, and questions about files. What a
-- word means depends on the words around it, so that operators can also be compared as texts.
import GitSteward.Host.Files
import GitSteward.Host.Tool.Format

namespace GitSteward.Host

/-- What a condition is asked about: files, seen from a directory, and what descriptors lead
to. -/
structure ConditionScene where
  files : Files
  dir : Path
  behind : Nat → Option Node
deriving Inhabited

namespace Condition

/-- The answer to a condition, or what is wrong with it. -/
abbrev Answer := Except String Bool

def nodeAt (s : ConditionScene) (text : String) : Option Node :=
  match s.files.find s.dir text with
  | .ok (_, .device (.descriptor fd)) => s.behind fd
  | .ok (_, node) => some node
  | .error _ => none

def linkAt (s : ConditionScene) (text : String) : Option Node :=
  match s.files.resolveTo false s.dir text with
  | .ok p => s.files.get? p
  | .error _ => none

/-- The operators that ask about the text after them. -/
def unaryOperators : List String :=
  ["-r", "-w", "-x", "-e", "-f", "-d", "-c", "-b", "-p", "-u", "-g", "-k", "-s", "-t", "-z", "-n",
    "-h", "-O", "-G", "-L", "-S"]

/-- The operators that compare the texts around them. -/
def binaryOperators : List String :=
  ["=", "!=", "<", ">", "-eq", "-ne", "-ge", "-gt", "-le", "-lt", "-nt", "-ot", "-ef"]

/-- The answer to a question about one text. -/
def unary (s : ConditionScene) (op arg : String) : Bool :=
  match op with
  | "-n" => !arg.isEmpty
  | "-z" => arg.isEmpty
  | "-e" | "-r" | "-w" | "-O" | "-G" => (nodeAt s arg).isSome
  | "-f" => (nodeAt s arg).any fun
      | .file _ _ | .tool _ => true
      | _ => false
  | "-d" => nodeAt s arg = some .directory
  | "-c" => (nodeAt s arg).any (· matches .device _)
  | "-p" => nodeAt s arg = some .pipe
  | "-x" => (nodeAt s arg).any fun
      | .file _ runnable => runnable
      | .tool _ | .directory => true
      | _ => false
  | "-s" => (nodeAt s arg).any fun
      | .file content _ => !content.isEmpty
      | .tool _ | .directory => true
      | _ => false
  | "-L" | "-h" => (linkAt s arg).any fun
      | .link _ => true
      | _ => false
  | _ => false

/-- A number in a condition. -/
def number (text : String) : Except String Int :=
  let (n, ok) := Format.number (String.ofList (text.toList.dropWhile (· = ' ')))
  if ok then .ok n else .error ("Illegal number: " ++ text)

/-- The answer to a question about two texts. -/
def binary (s : ConditionScene) (op a b : String) : Answer :=
  let compare (ask : Int → Int → Bool) : Answer := do
    return ask (← number a) (← number b)
  match op with
  | "=" => .ok (a = b)
  | "!=" => .ok (a ≠ b)
  | "<" => .ok (a < b)
  | ">" => .ok (b < a)
  | "-eq" => compare fun x y => x = y
  | "-ne" => compare fun x y => x ≠ y
  | "-lt" => compare fun x y => x < y
  | "-le" => compare fun x y => x ≤ y
  | "-gt" => compare fun x y => y < x
  | "-ge" => compare fun x y => y ≤ x
  | "-ef" => .ok ((s.files.resolve s.dir a).toOption = (s.files.resolve s.dir b).toOption)
  | "-nt" => .ok ((nodeAt s a).isSome && (nodeAt s b).isNone)
  | _ => .ok ((nodeAt s a).isNone && (nodeAt s b).isSome)

/-- What a word is, in front of others. -/
inductive Role where
  | ending
  | operand
  | unary
  | binary
  | negation
  | conjunction
  | disjunction
  | opening
  | closing
deriving Repr, DecidableEq, Inhabited

/-- The role of a word, wherever it stands. -/
def Role.ofWord (w : String) : Role :=
  if unaryOperators.contains w then unary
  else if binaryOperators.contains w then binary
  else match w with
    | "!" => negation
    | "-a" => conjunction
    | "-o" => disjunction
    | "(" => opening
    | ")" => closing
    | _ => operand

/-- The role of the first word. An operator at the end, or in front of a comparison, is a
text. -/
def Role.ofWords : List String → Role
  | [] => ending
  | w :: rest =>
    match ofWord w, rest with
    | unary, [] => operand
    | unary, op :: _ :: _ => if ofWord op = binary then operand else unary
    | opening, [] => operand
    | role, _ => role

/-- The answer and the words after the ones that it took. -/
abbrev Parsed := Except String (Bool × List String)

mutual

/-- Conditions of which one has to hold. -/
def disjunction (s : ConditionScene) : Nat → List String → Parsed
  | 0, _ => .error "too many arguments"
  | fuel + 1, words => do
    let (first, rest) ← conjunction s fuel words
    match Role.ofWords rest with
    | .disjunction =>
      let (others, rest) ← disjunction s fuel (rest.drop 1)
      return (first || others, rest)
    | _ => return (first, rest)

/-- Conditions all of which have to hold. -/
def conjunction (s : ConditionScene) : Nat → List String → Parsed
  | 0, _ => .error "too many arguments"
  | fuel + 1, words => do
    let (first, rest) ← negation s fuel words
    match Role.ofWords rest with
    | .conjunction =>
      let (others, rest) ← conjunction s fuel (rest.drop 1)
      return (first && others, rest)
    | _ => return (first, rest)

def negation (s : ConditionScene) : Nat → List String → Parsed
  | 0, _ => .error "too many arguments"
  | fuel + 1, words =>
    match Role.ofWords words with
    | .negation => do
      let (answer, rest) ← negation s fuel (words.drop 1)
      return (!answer, rest)
    | _ => simple s fuel words

/-- A condition that is not put together from others, or one in parentheses. -/
def simple (s : ConditionScene) : Nat → List String → Parsed
  | 0, _ => .error "too many arguments"
  | fuel + 1, words =>
    match Role.ofWords words, words with
    | .opening, _ :: rest =>
      if Role.ofWords rest = .closing then .ok (false, rest.drop 1)
      else do
        let (answer, rest) ← disjunction s fuel rest
        if Role.ofWords rest = .closing then return (answer, rest.drop 1)
        else throw "closing paren expected"
    | .unary, op :: arg :: rest => .ok (unary s op arg, rest)
    | _, a :: op :: rest =>
      if Role.ofWord op = .binary then
        match rest with
        | b :: rest => do return (← binary s op a b, rest)
        | [] => .error (op ++ ": argument expected")
      else .ok (!a.isEmpty, op :: rest)
    | _, [a] => .ok (!a.isEmpty, [])
    | _, [] => .ok (false, [])

end

/-- The answer to all words, which have to be taken. If some are not, the one in front of them is
told of. -/
def answerAll (s : ConditionScene) (words : List String) : Answer := do
  let (answer, rest) ← disjunction s (4 * words.length + 8) words
  if rest.isEmpty then return answer
  let last := words[words.length - rest.length - 1]?
  throw (last.getD "" ++ ": unexpected operator")

/-- The answer to a condition. With three words a comparison in the middle comes first. -/
def answer (s : ConditionScene) : List String → Answer
  | [] => .ok false
  | [a, op, b] =>
    if Role.ofWord op = .binary then binary s op a b
    else if a = "!" then do return !(← answer s [op, b])
    else if a = "(" && b = ")" then answer s [op]
    else answerAll s [a, op, b]
  | [a, b, c, d] =>
    if a = "!" then do return !(← answer s [b, c, d])
    else if a = "(" && d = ")" then answer s [b, c]
    else answerAll s [a, b, c, d]
  | words => answerAll s words

end Condition

end GitSteward.Host
