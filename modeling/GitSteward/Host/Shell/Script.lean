-- Scripts of the shell: words, which are still to be expanded, and commands made of them.

namespace GitSteward.Host.Shell

def isNameStart (c : Char) : Bool := c.isAlpha || c = '_'

def isNameChar (c : Char) : Bool := c.isAlphanum || c = '_'

/-- Whether a text can be the name of a variable or a function of the shell. -/
def isName (s : String) : Bool := s.toList.head?.any isNameStart && s.toList.all isNameChar

/-- What is done with the value of a parameter. The flag says that an empty value counts as
none. -/
inductive ParameterUse where
  | plain
  /-- how long it is -/
  | length
  /-- another word where there is no value -/
  | default (orEmpty : Bool)
  /-- another word where there is no value, which also becomes the value -/
  | assign (orEmpty : Bool)
  /-- an error where there is no value -/
  | require (orEmpty : Bool)
  /-- another word where there is a value -/
  | alternative (orEmpty : Bool)
  /-- the value without what a pattern matches at its end -/
  | withoutEnd (longest : Bool)
  /-- the value without what a pattern matches at its beginning -/
  | withoutStart (longest : Bool)
  /-- none that there is -/
  | unknown
deriving Repr, DecidableEq, Inhabited

/-- Whether the word that follows is a pattern. Quotes around the parameter do not quote it. -/
def ParameterUse.hasPattern : ParameterUse → Bool
  | .withoutEnd _ | .withoutStart _ => true
  | _ => false

inductive RedirectionKind where
  | input
  /-- a file that is there is kept if the options ask for that -/
  | output
  | overwrite
  | append
  | both
  /-- to where another descriptor leads, or nowhere -/
  | duplicate
  /-- from the text itself -/
  | document
deriving Repr, DecidableEq, Inhabited

mutual

/-- A piece of a word. Pieces inside quotes are not split. -/
inductive Piece where
  | text (text : String) (quoted : Bool)
  | parameter (name : String) (use : ParameterUse) (word : List Piece) (quoted : Bool)
  | arithmetic (body : List Piece) (quoted : Bool)
  /-- what a command writes -/
  | output (command : Command) (quoted : Bool)
  /-- the home directory, written as a tilde -/
  | home

structure Redirection where
  fd : Nat
  kind : RedirectionKind
  target : List Piece

inductive Command where
  /-- does nothing at all -/
  | nothing
  | simple (line : Nat) (assignments : List (String × List Piece)) (words : List (List Piece))
      (redirections : List Redirection)
  | sequence (first second : Command)
  | conjunction (first second : Command)
  | disjunction (first second : Command)
  | negation (command : Command)
  | pipeline (left right : Command)
  | background (command : Command)
  | group (command : Command)
  | subshell (command : Command)
  | choice (condition yes no : Command)
  | loop (untilTrue : Bool) (condition body : Command)
  /-- for each word, or for each argument -/
  | each (name : String) (words : Option (List (List Piece))) (body : Command)
  | select (word : List Piece) (arms : List (List (List Piece) × Command))
  | define (name : String) (body : Command)
  | redirected (command : Command) (redirections : List Redirection)
  /-- a command that begins on some line -/
  | at (line : Nat) (command : Command)

end

instance : Inhabited Piece := ⟨.home⟩

instance : Inhabited Command := ⟨.nothing⟩

instance : Inhabited Redirection := ⟨{ fd := 0, kind := .input, target := [] }⟩

abbrev Word := List Piece

/-- A command in front of others, if there are others. -/
def Command.before (first : Command) : Command → Command
  | .nothing => first
  | others => .sequence first others

/-- A command under redirections. Those of a group that is but a subshell take the place of the ones
that the subshell has. -/
def Command.under : Command → List Redirection → Command
  | c, [] => c
  | .group (.at line (.redirected (.subshell c) _)), rs => .at line (.redirected (.subshell c) rs)
  | c, rs => .redirected c rs

/-- The builtin commands whose errors end a script, and before which assignments stay. No function
can have their names. -/
def specialBuiltins : List String :=
  ["export", "readonly", "local", "set", "shift", "trap", "unset", ":", "exit", "return", "break",
    "continue", "times", ".", "eval", "exec"]

/-- The commands whose outputs and inputs are joined. -/
def Command.members : Command → List Command
  | .pipeline left right => left :: right.members
  | c => [c]

/-- Why a script cannot be read. -/
structure ScriptError where
  line : Nat
  text : String
deriving Repr, Inhabited

end GitSteward.Host.Shell
