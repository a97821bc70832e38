-- The command line: its options and arguments, how they are read, and what is told of a command
-- line that makes no sense. A value is looked at when the next thing comes that is no part of it,
-- so an argument that is not known is told of before a bad value in front of it.
import GitSteward.Decimal.Whole
import GitSteward.Environment.Assignment
import GitSteward.Text.Plain
import GitSteward.Text.Quoted

namespace GitSteward.Cli

/-- What a command line asks for. -/
structure Arguments where
  config : Option String := none
  env : Assignments := []
  timeoutSeconds : Option Nat := none
  service : String
  dir : String
  args : List String := []
deriving Repr, DecidableEq, Inhabited

/-- The options that take a value. -/
inductive Opt where
  | config
  | env
  | timeout
deriving Repr, DecidableEq, Inhabited

namespace Opt

def all : List Opt := [config, env, timeout]

def long : Opt → String
  | config => "config"
  | env => "env"
  | timeout => "timeout"

def short? : Opt → Option Char
  | config => some 'c'
  | env => some 'e'
  | timeout => none

/-- The option and its value as they are shown. -/
def shown : Opt → String
  | config => "--config <CONFIG>"
  | env => "--env <KEY=VALUE>"
  | timeout => "--timeout <TIMEOUT>"

end Opt

/-- What is wrong with a command line. -/
inductive UsageError where
  | unexpectedArgument (text : String)
  /-- a value for a flag, which takes none -/
  | unexpectedValue (value flag : String)
  | valueMissing (shown : String)
  | repeated (option : Opt)
  | invalidValue (value : String) (option : Opt) (reason : String)
  | argumentsMissing (shown : List String)
deriving Repr, DecidableEq, Inhabited

/-- Why a command line is not run. -/
inductive Refusal where
  | help
  | usage (error : UsageError)
deriving Repr, DecidableEq, Inhabited

def usageLine : String := "Usage: forgeserve [OPTIONS] <SERVICE> <DIR> [-- <ARGS>...]"

/-- The problem in words. What it repeats of the command line does not steer a terminal. -/
def UsageError.problem : UsageError → String
  | unexpectedArgument text => "unexpected argument '" ++ Text.plain text ++ "' found"
  | unexpectedValue value flag =>
    "unexpected value '" ++ Text.plain value ++ "' for '" ++ flag ++
    "' found; no more were expected"
  | valueMissing shown => "a value is required for '" ++ shown ++ "' but none was supplied"
  | repeated option => "the argument '" ++ option.shown ++ "' cannot be used multiple times"
  | invalidValue value option reason =>
    "invalid value '" ++ Text.plain value ++ "' for '" ++ option.shown ++ "': " ++ reason
  | argumentsMissing shown =>
    "the following required arguments were not provided:" ++
    String.join (shown.map fun s => "\n  " ++ s)

/-- All that is told of a command line that makes no sense. -/
def UsageError.message (e : UsageError) : String :=
  "error: " ++ e.problem ++ "\n\n" ++ usageLine ++ "\n\nFor more information, try '--help'.\n"

def helpText : String :=
  "Serve one git wire-protocol service over stdin/stdout\n" ++
  "\n" ++
  usageLine ++ "\n" ++
  "\n" ++
  "Arguments:\n" ++
  "  <SERVICE>  Wire service name, e.g. `git-upload-pack`\n" ++
  "  <DIR>      Repository directory\n" ++
  "  [ARGS]...  Extra arguments inserted before the repository argument\n" ++
  "\n" ++
  "Options:\n" ++
  "  -c, --config <CONFIG>    Path to an optional YAML configuration file\n" ++
  "  -e, --env <KEY=VALUE>    Extra environment for the service process (repeatable)\n" ++
  "      --timeout <TIMEOUT>  Deadline in seconds; overrides `git.timeout_secs`\n" ++
  "  -h, --help               Print help\n"

/-! ## Reading -/

/-- The arguments that are told apart by their places. -/
inductive Place where
  | service
  | dir
  | args
deriving Repr, DecidableEq, Inhabited

/-- Something whose value has not been looked at yet. -/
inductive Pending where
  | option (option : Opt) (value : Option String)
  | argument (place : Place) (value : String)
deriving Repr, DecidableEq, Inhabited

/-- What has been read of a command line. -/
structure Reading where
  config : Option String := none
  env : Assignments := []
  timeoutSeconds : Option Nat := none
  service : Option String := none
  dir : Option String := none
  args : List String := []
  /-- the place of the next argument -/
  place : Place := .service
  pending : Option Pending := none
deriving Repr, Inhabited

abbrev Read := Except Refusal

def refuse (e : UsageError) : Read α := .error (.usage e)

namespace Reading

/-- Gives an option its value. -/
def setOption (r : Reading) (o : Opt) (value : String) : Read Reading :=
  match o with
  | .config =>
    if r.config.isSome then refuse (.repeated o)
    else if value.isEmpty then refuse (.valueMissing o.shown)
    else .ok { r with config := some value }
  | .env =>
    match assignment? value with
    | some a => .ok { r with env := r.env ++ [a] }
    | none => refuse (.invalidValue value o ("expected KEY=VALUE, got " ++ Text.quoted value))
  | .timeout =>
    if r.timeoutSeconds.isSome then refuse (.repeated o)
    else match Decimal.readWhole value.toList with
      | .ok n => .ok { r with timeoutSeconds := some n }
      | .error why => refuse (.invalidValue value o why.message)

/-- Looks at the value that is pending. -/
def settle (r : Reading) : Read Reading :=
  let done : Reading := { r with pending := none }
  match r.pending with
  | none => .ok r
  | some (.option o none) => refuse (.valueMissing o.shown)
  | some (.option o (some value)) => done.setOption o value
  | some (.argument .service value) => .ok { done with service := some value }
  | some (.argument .dir value) =>
    if value.isEmpty then refuse (.valueMissing "<DIR>") else .ok { done with dir := some value }
  | some (.argument .args value) => .ok { done with args := r.args ++ [value] }

/-- An option, with the value that is attached to it or with one to come. -/
def option (r : Reading) (o : Opt) (attached : Option String) : Read Reading := do
  let r ← r.settle
  match attached with
  | some value => r.setOption o value
  | none => return { r with pending := some (.option o none) }

/-- Asks for help, unless what came before makes no sense. -/
def help (r : Reading) : Read Reading := do
  let _ ← r.settle
  throw .help

/-- An argument that is told apart by its place. -/
def argument (r : Reading) (value : String) : Read Reading :=
  match r.place with
  | .service => do
    return { ← r.settle with place := .dir, pending := some (.argument .service value) }
  | .dir => do
    return { ← r.settle with place := .args, pending := some (.argument .dir value) }
  | .args => refuse (.unexpectedArgument value)

/-- A word that starts with two dashes, those left out. -/
def longOption (r : Reading) (text : List Char) : Read Reading :=
  let name := String.ofList (text.takeWhile (· ≠ '='))
  let value := match text.drop name.length with
    | '=' :: value => some (String.ofList value)
    | _ => none
  if name = "help" then
    match value with
    | none => r.help
    | some value => refuse (.unexpectedValue value "--help")
  else match Opt.all.find? (·.long = name) with
    | some o => r.option o value
    | none => refuse (.unexpectedArgument ("--" ++ name))

/-- A word that starts with one dash, that left out. -/
def shortOption (r : Reading) (text : List Char) : Read Reading :=
  match text with
  | [] => r.argument "-"
  | c :: rest =>
    if c = 'h' then r.help
    else match Opt.all.find? (·.short? = some c), rest with
      | some o, [] => r.option o none
      | some o, '=' :: value => r.option o (some (String.ofList value))
      | some o, value => r.option o (some (String.ofList value))
      | none, _ => refuse (.unexpectedArgument ("-" ++ c.toString))

/-- A word of the command line before any two dashes that stand alone. -/
def word (r : Reading) (w : String) : Read Reading :=
  match w.toList, r.pending with
  | '-' :: '-' :: name, _ => r.longOption name
  | '-' :: c :: rest, _ => r.shortOption (c :: rest)
  | _, some (.option o none) => .ok { r with pending := some (.option o (some w)) }
  | _, _ => r.argument w

/-- Reads words. After two dashes that stand alone all words are extra arguments. -/
def words (r : Reading) : List String → Read Reading
  | [] => r.settle
  | "--" :: rest => do
    match rest with
    | [] => r.settle
    | rest =>
      let r ← r.settle
      return { r with args := r.args ++ rest }
  | w :: rest => do words (← r.word w) rest

end Reading

/-- What a command line asks for. -/
def Arguments.ofWords (words : List String) : Except Refusal Arguments := do
  let r ← ({} : Reading).words words
  match r.service, r.dir with
  | some service, some dir =>
    return {
      config := r.config, env := r.env, timeoutSeconds := r.timeoutSeconds
      service, dir, args := r.args }
  | some _, none => throw (.usage (.argumentsMissing ["<DIR>"]))
  | none, _ => throw (.usage (.argumentsMissing ["<SERVICE>", "<DIR>"]))

end GitSteward.Cli
