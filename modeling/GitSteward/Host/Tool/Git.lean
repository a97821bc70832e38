-- The git of a machine on which there are no repositories: the services look at their arguments
-- and then find that the directory is none.
import GitSteward.Host.Course
import GitSteward.Service

namespace GitSteward.Host

namespace Git

open Doing

/-- The code of a command that was given wrong arguments. -/
def usageCode : Nat := 129

/-- The code of a command that gave up. -/
def fatalCode : Nat := 128

def uploadPackUsage : String :=
  "usage: git-upload-pack [--[no-]strict] [--timeout=<n>] [--stateless-rpc]\n" ++
  "                       [--advertise-refs] <directory>\n" ++
  "\n" ++
  "    --stateless-rpc       quit after a single request/response exchange\n" ++
  "    --advertise-refs ...  alias of --http-backend-info-refs\n" ++
  "    --strict              do not try <directory>/.git/ if <directory> is no Git directory\n" ++
  "    --timeout <n>         interrupt transfer after <n> seconds of inactivity\n" ++
  "\n"

def uploadArchiveUsage : String := "usage: git upload-archive <repository>\n"

def receivePackUsage : String :=
  "usage: git receive-pack <git-dir>\n" ++
  "\n" ++
  "    -q, --quiet           quiet\n" ++
  "    --advertise-refs ...  alias of --http-backend-info-refs\n" ++
  "\n"

def noRepository (path : String) : String :=
  "fatal: '" ++ path ++ "' does not appear to be a git repository\n"

/-- What an option takes. -/
inductive OptionKind where
  | flag
  | number
deriving Repr, DecidableEq, Inhabited

abbrev OptionTable := List (String × OptionKind)

def uploadPackOptions : OptionTable :=
  [("stateless-rpc", .flag), ("http-backend-info-refs", .flag), ("advertise-refs", .flag),
    ("strict", .flag), ("timeout", .number)]

def receivePackOptions : OptionTable :=
  [("quiet", .flag), ("stateless-rpc", .flag), ("http-backend-info-refs", .flag),
    ("advertise-refs", .flag), ("reject-thin-pack-for-testing", .flag)]

/-- Why arguments are not taken. -/
inductive ArgumentError where
  /-- help is asked for -/
  | help
  | unknownOption (name : String)
  | unknownSwitch (letter : Char)
  | noValue (name : String)
  | noNumber (name : String)
deriving Repr, DecidableEq, Inhabited

def ArgumentError.message : ArgumentError → String
  | help => ""
  | unknownOption name => "error: unknown option \x60" ++ name ++ "'\n"
  | unknownSwitch letter => "error: unknown switch \x60" ++ letter.toString ++ "'\n"
  | noValue name => "error: option \x60" ++ name ++ "' takes no value\n"
  | noNumber name => "error: option \x60" ++ name ++ "' expects a numerical value\n"

/-- Whether the usage is told as well. -/
def ArgumentError.tellsUsage : ArgumentError → Bool
  | help | unknownOption _ | unknownSwitch _ => true
  | noValue _ | noNumber _ => false

/-- The option of a name, which may be cut short, and whether it is switched off. -/
def findOption (table : OptionTable) (name : String) : Option (Bool × String × OptionKind) :=
  let look (name : String) := (table.find? (·.1 = name)) <|> table.find? (·.1.startsWith name)
  match look name with
  | some o => some (false, o)
  | none =>
    if name.startsWith "no-" then
      (look (String.ofList (name.toList.drop 3))).map fun o => (true, o)
    else none

/-- The arguments that are no options. -/
def operands (table : OptionTable) (letters : List Char) :
    List String → Except ArgumentError (List String)
  | [] => .ok []
  | "--" :: rest => .ok rest
  | "-h" :: _ => .error .help
  | arg :: rest =>
    match arg.toList with
    | '-' :: '-' :: text =>
      let name := String.ofList (text.takeWhile (· ≠ '='))
      let value := if text.contains '=' then some (String.ofList (text.drop (name.length + 1)))
        else none
      match findOption table name, value with
      | none, _ => .error (.unknownOption (String.ofList text))
      | some (false, full, .number), some value =>
        if value.toNat?.isSome then operands table letters rest else .error (.noNumber full)
      | some (false, full, .number), none =>
        match rest with
        | [] => .error (.noNumber full)
        | value :: rest =>
          if value.toNat?.isSome then operands table letters rest else .error (.noNumber full)
      | some (_, full, _), some _ => .error (.noValue full)
      | some _, none => operands table letters rest
    | '-' :: c :: others =>
      match (c :: others).find? (!letters.contains ·) with
      | some c => .error (.unknownSwitch c)
      | none => operands table letters rest
    | _ => do return arg :: (← operands table letters rest)

def failWith (text : String) (code : Nat) : Doing Nat := do
  complain text
  return code

/-- Refuses arguments. -/
def refuse (usage : String) (e : ArgumentError) : Doing Nat :=
  if e = .help then do
    say usage
    return usageCode
  else failWith (e.message ++ if e.tellsUsage then usage else "") usageCode

def uploadPack (args : List String) : Doing Nat :=
  match operands uploadPackOptions [] args with
  | .error e => refuse uploadPackUsage e
  | .ok [path] => failWith (noRepository path) fatalCode
  | .ok _ => failWith uploadPackUsage usageCode

def receivePack (args : List String) : Doing Nat :=
  match operands receivePackOptions ['q'] args with
  | .error e => refuse receivePackUsage e
  | .ok [path] => failWith (noRepository path) fatalCode
  | .ok [] => failWith ("fatal: you must specify a directory\n\n" ++ receivePackUsage) usageCode
  | .ok _ => failWith ("fatal: too many arguments\n\n" ++ receivePackUsage) usageCode

/-- A line of the protocol: its length in four digits, the band it goes to, and its text. -/
def packet (band : Nat) (text : String) : Bytes :=
  let body := band.toUInt8 :: Text.utf8 text
  let digits := Nat.toDigits 16 (body.length + 4)
  Text.utf8 (String.ofList (List.replicate (4 - digits.length) '0' ++ digits)) ++ body

/-- The work is done by a child, whose complaints go to the client. -/
def uploadArchive (args : List String) : Doing Nat := do
  if args = ["-h"] then return ← failWith uploadArchiveUsage usageCode
  let complaint := match args with
    | [path] => noRepository path
    | _ => uploadArchiveUsage
  let failure := "git upload-archive: archiver died with error"
  say "0008ACK\n0000"
  put (packet 2 complaint)
  put (packet 3 failure)
  failWith ("fatal: sent error to the client: " ++ failure ++ "\n") fatalCode

/-- Runs a subcommand, after settings. -/
def run : List String → Doing Nat
  | "-c" :: _ :: rest => run rest
  | "-C" :: dir :: rest => do
    match (← files).findDirectory (← process).dir dir with
    | .ok dir => modifyProcess fun p => { p with dir }
                 run rest
    | .error e =>
      failWith ("fatal: cannot change to '" ++ dir ++ "': " ++ systemErrorText e.number ++ "\n")
        fatalCode
  | "--version" :: _ | "-v" :: _ | "version" :: _ => do
    say "git version 2.39.5\n"
    return 0
  | "upload-pack" :: args => uploadPack args
  | "receive-pack" :: args => receivePack args
  | "upload-archive" :: args => uploadArchive args
  | name :: _ =>
    failWith ("git: '" ++ name ++ "' is not a git command. See 'git --help'.\n") 1
  | [] => failWith "usage: git [-v | --version] [-h | --help] [-C <path>] [-c <name>=<value>]\n" 1

end Git

end GitSteward.Host
