-- Options: those of the shell itself, and those among the arguments of builtin commands.
import GitSteward.Host.Shell.State
import GitSteward.Host.Tool.Options

namespace GitSteward.Host.Shell

/-! ## Options of the shell -/

/-- The options that there are, with the letters of those that have one. -/
def shellOptions : List (String × Option Char) :=
  [("errexit", some 'e'), ("noglob", some 'f'), ("ignoreeof", some 'I'), ("interactive", some 'i'),
    ("monitor", some 'm'), ("noexec", some 'n'), ("stdin", some 's'), ("xtrace", some 'x'),
    ("verbose", some 'v'), ("vi", some 'V'), ("emacs", some 'E'), ("noclobber", some 'C'),
    ("allexport", some 'a'), ("notify", some 'b'), ("nounset", some 'u'), ("privileged", some 'p'),
    ("nolog", none), ("debug", none)]

/-- The name of an option by its letter. -/
def optionNamed? (letter : Char) : Option String :=
  (shellOptions.find? (·.2 = some letter)).map (·.1)

/-- The letters of the options that are set, the last ones of the table first. -/
def State.letters (s : State) : List Char :=
  ((shellOptions.filter fun o => s.has o.1).filterMap (·.2)).reverse

namespace Shelling

/-- Writes a line. -/
def putLine (text : String) : Shelling Unit := put (widen (text ++ "\n"))

/-- Sets an option, or unsets it. Without a terminal there is no control of jobs. -/
def setOption (on : Bool) (name : String) : Shelling Unit := do
  if on && name = "monitor" then complain "can't access tty; job control turned off"
  else modifyShell fun s =>
    let others := s.options.filter (· ≠ name)
    { s with options := if on then name :: others else others }

/-- Writes all options: as a table, or as commands that would set them as they are. -/
def listOptions (asTable : Bool) : Shelling Unit := do
  let s ← shell
  if asTable then putLine "Current option settings"
  for (name, _) in shellOptions do
    if asTable then
      let gap := String.ofList (List.replicate (16 - name.length) ' ')
      putLine (name ++ gap ++ if s.has name then "on" else "off")
    else putLine ("set " ++ (if s.has name then "-" else "+") ++ "o " ++ name)

def setArgs (args : List String) : Shelling Unit :=
  modifyShell fun s => { s with args, optionIndex := 1, optionOffset := 0 }

/-- Sets the options with some letters, or unsets them. One letter stands for a name, which is the
next argument. The result are the arguments that are left. -/
def setLetters (on : Bool) : List Char → List String → Shelling (List String)
  | [], rest => return rest
  | 'o' :: cs, [] => do
    listOptions on
    setLetters on cs []
  | 'o' :: cs, name :: rest => do
    if !shellOptions.any (·.1 = name) then give ("Illegal option -o " ++ name)
    setOption on name
    setLetters on cs rest
  | c :: cs, rest => do
    match optionNamed? c with
    | some name => setOption on name
    | none => give ("Illegal option -" ++ c.toString)
    setLetters on cs rest

/-- Sets options up to the first argument that is none, and then the arguments. -/
def builtinSet : Nat → List String → Shelling Unit
  | 0, _ | _, [] => return ()
  | fuel + 1, a :: rest => do
    match a.toList with
    | ['-', '-'] => setArgs rest
    | ['-'] =>
      setOption false "xtrace"
      setOption false "verbose"
      if !rest.isEmpty then setArgs rest
    | '-' :: letters => builtinSet fuel (← setLetters true letters rest)
    | '+' :: letters => builtinSet fuel (← setLetters false letters rest)
    | _ => setArgs (a :: rest)

/-- The next option among arguments: its letter, the text that belongs to it, and how many
arguments are gone through and how much of the next one. -/
structure NextOption where
  letter : Char
  value : Option String
  problem : Option String := none
  index : Nat
  offset : Nat

/-- Looks for the next option from some argument on, within it or at its beginning. The result is
none if there are no more options. `index` counts from one. -/
def nextOption (spec : String) (args : List String) (index offset : Nat) : NextOption ⊕ Nat :=
  let quiet := spec.startsWith ":"
  let inside := ((args[index - 2]?).getD "").toList.drop offset
  let start : Option (List Char × Nat × Nat) :=
    if 1 < index && 0 < offset && !inside.isEmpty then some (inside, index, offset)
    else match (args[index - 1]?).map String.toList with
      | some ('-' :: c :: more) => some (c :: more, index + 1, 1)
      | _ => none
  match start with
  | none => .inr index
  | some (['-'], index, _) => .inr index
  | some ([], index, _) => .inr index
  | some (c :: more, index, offset) =>
    let after : Nat := if more.isEmpty then 0 else offset + 1
    let known := spec.toList.dropWhile (· ≠ c)
    if c = ':' || known.isEmpty then
      if quiet then .inl { letter := '?', value := some c.toString, index, offset := after }
      else .inl { letter := '?', value := none, index, offset := after
                  problem := some ("Illegal option -" ++ c.toString) }
    else if known[1]? ≠ some ':' then
      .inl { letter := c, value := some "", index, offset := after }
    else if !more.isEmpty then
      .inl { letter := c, value := some (String.ofList more), index, offset := 0 }
    else match args[index - 1]? with
      | some value => .inl { letter := c, value := some value, index := index + 1, offset := 0 }
      | none =>
        if quiet then .inl { letter := ':', value := some c.toString, index, offset := 0 }
        else .inl { letter := '?', value := none, index, offset := 0
                    problem := some ("No arg for -" ++ c.toString ++ " option") }

/-! ## Options of builtin commands -/

/-- The options at the beginning of arguments, each with the text that belongs to it, and the
arguments after them. -/
def takeOptions (plain withText : String) :
    List String → Shelling (List (Char × String) × List String)
  | [] => return ([], [])
  | a :: rest =>
    match a.toList with
    | ['-', '-'] => return ([], rest)
    | '-' :: c :: cs =>
      match Tool.cluster plain.toList withText.toList (c :: cs), rest with
      | .error c, _ => give ("Illegal option -" ++ c.toString)
      | .ok (options, none), rest => do
        let (others, args) ← takeOptions plain withText rest
        return (options ++ others, args)
      | .ok (_, some c), [] => give ("No arg for -" ++ c.toString ++ " option")
      | .ok (options, some c), text :: rest => do
        let (others, args) ← takeOptions plain withText rest
        return (options ++ (c, text) :: others, args)
    | _ => return ([], a :: rest)

end Shelling

end GitSteward.Host.Shell
