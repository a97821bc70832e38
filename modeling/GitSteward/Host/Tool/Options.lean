-- Options among the arguments of programs: letters, which may stand together behind one dash, and
-- long names behind two.

namespace GitSteward.Host

namespace Tool

/-- An option of a program: its letter, its long name, and whether a text belongs to it. -/
structure OptionForm where
  letter : Char
  long : String
  withText : Bool := false
deriving Repr, Inhabited

/-- The letters of one argument that are options, up to one to which a text belongs: that is what
follows it, or still to come. The error is a letter that is none. -/
def cluster (plain withText : List Char) :
    List Char → Except Char (List (Char × String) × Option Char)
  | [] => .ok ([], none)
  | c :: cs =>
    if withText.contains c then
      .ok (if cs.isEmpty then ([], some c) else ([(c, String.ofList cs)], none))
    else if plain.contains c then do
      let (options, awaiting) ← cluster plain withText cs
      return ((c, "") :: options, awaiting)
    else .error c

/-- The form of an option by its long name, or the beginning of that. The error is what is wrong
with it. -/
def formNamed (forms : List OptionForm) (name : String) : Except String OptionForm :=
  match forms.find? (·.long = name), forms.filter (·.long.startsWith name) with
  | some form, _ => .ok form
  | none, [form] => .ok form
  | none, [] => .error ("unrecognized option '--" ++ name ++ "'")
  | none, several => .error ("option '--" ++ name ++ "' is ambiguous; possibilities:" ++
      String.join (several.map fun form => " '--" ++ form.long ++ "'"))

/-- The options among arguments, each with the text that belongs to it, and the other arguments.
Options may come after those. The error is what is wrong with an option. -/
def takeOptions (forms : List OptionForm) :
    List String → Except String (List (Char × String) × List String)
  | [] => .ok ([], [])
  | arg :: rest =>
    match arg.toList, rest with
    | ['-', '-'], rest => .ok ([], rest)
    | '-' :: '-' :: name, rest =>
      let long := String.ofList (name.takeWhile (· ≠ '='))
      let value := name.dropWhile (· ≠ '=')
      match formNamed forms long, value, rest with
      | .error e, _, _ => .error e
      | .ok form, '=' :: text, rest =>
        if form.withText then add [(form.letter, String.ofList text)] (takeOptions forms rest)
        else .error ("option '--" ++ form.long ++ "' doesn't allow an argument")
      | .ok form, _, text :: rest =>
        if form.withText then add [(form.letter, text)] (takeOptions forms rest)
        else add [(form.letter, "")] (takeOptions forms (text :: rest))
      | .ok form, _, [] =>
        if form.withText then .error ("option '--" ++ form.long ++ "' requires an argument")
        else .ok ([(form.letter, "")], [])
    | '-' :: c :: cs, rest =>
      let letters (withText : Bool) := (forms.filter (·.withText = withText)).map (·.letter)
      match cluster (letters false) (letters true) (c :: cs), rest with
      | .error c, _ => .error ("invalid option -- '" ++ c.toString ++ "'")
      | .ok (options, none), rest => add options (takeOptions forms rest)
      | .ok (options, some c), text :: rest => add (options ++ [(c, text)]) (takeOptions forms rest)
      | .ok (_, some c), [] => .error ("option requires an argument -- '" ++ c.toString ++ "'")
    | _, rest => do
      let (options, others) ← takeOptions forms rest
      return (options, arg :: others)
where
  /-- Puts options in front of those that come later. -/
  add (options : List (Char × String)) (later : Except String (List (Char × String) × List String)) :
      Except String (List (Char × String) × List String) :=
    later.map fun found => (options ++ found.1, found.2)

end Tool

end GitSteward.Host
