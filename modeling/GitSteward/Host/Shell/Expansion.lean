-- Expanding words: parameters, arithmetic and the output of commands take their places, unquoted
-- values are split, and patterns become the names that they match.
import GitSteward.Host.Shell.Arithmetic
import GitSteward.Host.Shell.Options
import GitSteward.Host.Shell.Pattern

namespace GitSteward.Host.Shell

/-- A part of a word that has been expanded. -/
inductive Fragment where
  /-- a character that is not split at -/
  | char (c : Char) (quoted : Bool)
  /-- a character of an unquoted value -/
  | value (c : Char)
  /-- quotes, which make a word even if nothing is in them -/
  | quotes
  /-- the end of a word among all arguments, and what stands there in words that are not split -/
  | cut (joint : Option Char)
deriving Repr, DecidableEq, Inhabited

/-- Fragments of a value. -/
def fragmentsOf (quoted : Bool) (s : String) : List Fragment :=
  s.toList.map fun c => if quoted then .char c true else .value c

/-- The fragments of a word that takes the place of a value. Outside quotes it is split as a
value is. -/
def asValue (quoted : Bool) (fragments : List Fragment) : List Fragment :=
  fragments.map fun
    | .char c false => if quoted then .char c true else .value c
    | f => f

/-- The fragments of a pattern. -/
def patternOf (fragments : List Fragment) : Pattern :=
  fragments.filterMap fun
    | .char c quoted => some (c, quoted)
    | .value c => some (c, false)
    | .cut joint => joint.map (·, true)
    | .quotes => none

/-- The text of fragments that are not split. -/
def textOf (fragments : List Fragment) : String :=
  String.ofList ((patternOf fragments).map (·.1))

/-- What is known of the word that is being put together: its characters, last to first, and
whether there is one. -/
structure Splitting where
  done : List Pattern := []
  word : Pattern := []
  present : Bool := false
  /-- whether blanks have ended the last word, so that a separator after them belongs to them -/
  afterBlanks : Bool := false

/-- Whether a separator is white space, of which many are like one. -/
def isBlank (c : Char) : Bool := c = ' ' || c = '\t' || c = '\n'

def Splitting.close (s : Splitting) (afterBlanks : Bool) : Splitting :=
  if s.present then { done := s.word.reverse :: s.done, afterBlanks } else s

def Splitting.addChar (s : Splitting) (c : Char) (quoted : Bool) : Splitting :=
  { s with word := (c, quoted) :: s.word, present := true }

def Splitting.add (separators : List Char) (s : Splitting) : Fragment → Splitting
  | .char c quoted => s.addChar c quoted
  | .value c =>
    if !separators.contains c then s.addChar c false
    else if isBlank c then s.close true
    else if s.afterBlanks && !s.present then { s with afterBlanks := false }
    else { s with present := true }.close false
  | .quotes => { s with present := true }
  | .cut _ => s.close false

/-- The words that fragments make. -/
def split (separators : List Char) (fragments : List Fragment) : List Pattern :=
  ((fragments.foldl (Splitting.add separators) {}).close false).done.reverse

namespace Shelling

/-- The parts of a pattern between slashes. -/
def partsOf (p : Pattern) : List Pattern :=
  match p with
  | [] => [[]]
  | c :: rest =>
    match partsOf rest with
    | [] => [[c]]
    | part :: parts => if c.1 = '/' then [] :: part :: parts else (c :: part) :: parts

/-- The names in a directory that a part of a pattern matches. -/
def matching (files : Files) (dir : Path) (part : Pattern) : List String :=
  let hidden := part.head?.any (·.1 = '.')
  let found := ((if hidden then [".", ".."] else []) ++ files.list dir).map ofText
  found.filter fun n => n.startsWith "." = hidden && part.fits n.toList

/-- The paths that the parts of a pattern match, each after a text that leads to a directory. -/
def pathsOf (files : Files) (here : Path) : List Pattern → String → List String
  | [], before => [before]
  | part :: rest, before =>
    let text := String.ofList (part.map (·.1))
    let go (name : String) : List String :=
      let path := before ++ name
      if rest.isEmpty then
        match files.resolveTo false here (toText path) with
        | .ok there => if (files.get? there).isSome then [path] else []
        | .error _ => []
      else pathsOf files here rest (path ++ "/")
    if part.isWild then
      match files.findDirectory here (if before.isEmpty then "." else toText before) with
      | .ok dir => (matching files dir part).flatMap go
      | .error _ => []
    else go text

/-- The names that a pattern matches, or the text of the pattern. -/
def namesOf (p : Pattern) : Shelling (List String) := do
  let text := String.ofList (p.map (·.1))
  if !p.isWild || (← shell).has "noglob" then return [text]
  let found ← lift do
    let s ← get
    return pathsOf s.files s.me.dir (partsOf p) ""
  return if found.isEmpty then [text] else found

/-- The value of a parameter, if it has one. -/
def parameter (name : String) : Shelling (Option String) := do
  let s ← shell
  match name with
  | "?" => return some (toString s.status)
  | "#" => return some (toString s.args.length)
  | "$" => return some (toString s.pid)
  | "!" => return some ((s.lastBackground.map toString).getD "")
  | "-" => return some (String.ofList s.letters)
  | "@" | "*" => return some (" ".intercalate s.args)
  | "0" => return some s.name
  | name =>
    match name.toNat? with
    | some n => return s.args[n - 1]?
    | none => get? name

/-- The fragments of all arguments. In quotes each one is a word under `@`, and all are one word
under `*`. -/
def allArguments (name : String) (quoted : Bool) : Shelling (List Fragment) := do
  let s ← shell
  let joint := (((← get? "IFS").getD " ").toList).head?
  if quoted && name = "*" then
    return fragmentsOf true ((String.ofList joint.toList).intercalate s.args)
  let words := s.args.map fun a =>
    if quoted then .quotes :: fragmentsOf true a else fragmentsOf false a
  return List.intercalate [.cut joint] words

/-- The value of an expression. -/
def calculate (text : String) : Shelling String := do
  let s ← shell
  let vars := s.vars.filterMap fun v => v.value.map fun value => (v.name, value)
  match Arithmetic.parse text.toList with
  | .error why => give ("arithmetic expression: " ++ why ++ ": \"" ++ text ++ "\"")
  | .ok e =>
    match Arithmetic.eval vars e with
    | .error why =>
      if why.startsWith "Illegal" then give why
      else give ("arithmetic expression: " ++ why ++ ": \"" ++ text ++ "\"")
    | .ok (n, after) =>
      for (name, value) in after do
        if vars.lookup name ≠ some value then setVariable name value false
      return toString n

/-- The fragments of a word. `run` gives the output of a command. -/
def expand (run : Command → Shelling String) : Nat → Word → Shelling (List Fragment)
  | 0, _ => exit 2
  | _ + 1, [] => return []
  | fuel + 1, piece :: rest => do
    let first ← match piece with
      | .text s quoted =>
        pure (if quoted then .quotes :: fragmentsOf true s
          else s.toList.map fun c => .char c false)
      | .home => pure (fragmentsOf true ((← get? "HOME").getD "~"))
      | .output command quoted => pure (fragmentsOf quoted (← run command))
      | .arithmetic body quoted =>
        let text := textOf (← expand run fuel body)
        pure (fragmentsOf quoted (← calculate text))
      | .parameter name use word quoted => do
        let value ← parameter name
        let missing (orEmpty : Bool) : Bool :=
          value.isNone || (orEmpty && value = some "")
        let itself : Shelling (List Fragment) :=
          if name = "@" || name = "*" then allArguments name quoted
          else pure (fragmentsOf quoted (value.getD ""))
        let required : Bool := match use with
          | .plain | .length | .withoutEnd _ | .withoutStart _ => true
          | _ => false
        if required && value.isNone && name ≠ "@" && name ≠ "*" &&
            (← shell).has "nounset" then
          give (name ++ ": parameter not set")
        match use with
        | .unknown => give "Bad substitution"
        | .plain => itself
        | .length => pure (fragmentsOf quoted (toString (value.getD "").length))
        | .default orEmpty =>
          if missing orEmpty then pure (asValue quoted (← expand run fuel word)) else itself
        | .alternative orEmpty =>
          if missing orEmpty then pure [] else pure (asValue quoted (← expand run fuel word))
        | .assign orEmpty =>
          if missing orEmpty then
            let text := textOf (← expand run fuel word)
            setVariable name text false
            pure (fragmentsOf quoted text)
          else itself
        | .require orEmpty =>
          if missing orEmpty then
            let text := textOf (← expand run fuel word)
            let usual := if orEmpty then "parameter not set or null" else "parameter not set"
            give (name ++ ": " ++ (if text.isEmpty then usual else text))
          else itself
        | .withoutEnd longest =>
          let p := patternOf (← expand run fuel word)
          pure (fragmentsOf quoted (String.ofList (p.cutEnd longest (value.getD "").toList)))
        | .withoutStart longest =>
          let p := patternOf (← expand run fuel word)
          pure (fragmentsOf quoted (String.ofList (p.cutStart longest (value.getD "").toList)))
    return first ++ (← expand run fuel rest)

/-- How deep and how long words may be. -/
def wordFuel : Nat := 10000

/-- A word that is not split. -/
def expandText (run : Command → Shelling String) (w : Word) : Shelling String := do
  return textOf (← expand run wordFuel w)

/-- A word as a pattern. -/
def expandPattern (run : Command → Shelling String) (w : Word) : Shelling Pattern := do
  return patternOf (← expand run wordFuel w)

/-- The words that words become. -/
def expandWords (run : Command → Shelling String) : List Word → Shelling (List String)
  | [] => return []
  | w :: rest => do
    let fragments ← expand run wordFuel w
    let patterns := split (← separators) fragments
    let names ← patterns.mapM namesOf
    return names.flatten ++ (← expandWords run rest)

end Shelling

end GitSteward.Host.Shell
