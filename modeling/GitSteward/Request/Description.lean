-- What a request shows of itself in logs: directory, arguments, the names of its variables and
-- which streams and hook it has. The values of variables may be secret and are left out.
import GitSteward.Request
import GitSteward.Text.Quoted

namespace GitSteward

/-- The public part of a request. -/
structure RequestSummary where
  dir : String
  args : List String
  names : List String
  stdin : Bool
  stdout : Bool
  stderr : Bool
  hook : Bool
deriving Repr, DecidableEq, Inhabited

def Request.summary (r : Request) : RequestSummary where
  dir := r.dir
  args := r.args
  names := r.env.map (·.1)
  stdin := r.stdin.isSome
  stdout := r.stdout.isSome
  stderr := r.stderr.isSome
  hook := r.hook.isSome

namespace RequestSummary

def flagText (b : Bool) : String := if b then "true" else "false"

/-- Texts in brackets on one line. -/
def inlineList (texts : List String) : String :=
  "[" ++ ", ".intercalate (texts.map Text.quoted) ++ "]"

/-- The public part on one line. -/
def inlineText (s : RequestSummary) : String :=
  "ServiceCommand \x7b dir: " ++ Text.quoted s.dir ++
  ", args: " ++ inlineList s.args ++
  ", env_keys: " ++ inlineList s.names ++
  ", stdin: " ++ flagText s.stdin ++
  ", stdout: " ++ flagText s.stdout ++
  ", stderr: " ++ flagText s.stderr ++
  ", pre_start: " ++ flagText s.hook ++ " \x7d"

/-- Texts in brackets, each on a line of its own. -/
def blockList (texts : List String) : String :=
  if texts.isEmpty then "[]"
  else "[\n" ++ String.join (texts.map fun t => "        " ++ Text.quoted t ++ ",\n") ++ "    ]"

/-- The public part with each field on a line of its own. -/
def blockText (s : RequestSummary) : String :=
  "ServiceCommand \x7b\n" ++
  "    dir: " ++ Text.quoted s.dir ++ ",\n" ++
  "    args: " ++ blockList s.args ++ ",\n" ++
  "    env_keys: " ++ blockList s.names ++ ",\n" ++
  "    stdin: " ++ flagText s.stdin ++ ",\n" ++
  "    stdout: " ++ flagText s.stdout ++ ",\n" ++
  "    stderr: " ++ flagText s.stderr ++ ",\n" ++
  "    pre_start: " ++ flagText s.hook ++ ",\n\x7d"

end RequestSummary

end GitSteward
