-- The configuration of the program, with what holds where nothing is said. What holds for a field
-- of a section that is there, and what holds where a section is not there at all, is said apart.
import GitSteward.Environment

namespace GitSteward

/-- Bytes of error output that are kept for the message of a failed process. -/
def defaultCaptureLimit : Nat := 64 * 1024

/-- The program behind the git services. -/
def defaultGitProgram : String := "git"

/-- How the git services are run. -/
structure GitSection where
  /-- the program behind the git services -/
  program : String := defaultGitProgram
  /-- how many bytes at the end of the error output are kept for messages -/
  captureLimit : Nat := defaultCaptureLimit
  /-- the deadline of a request in seconds, or zero for none -/
  timeoutSeconds : Nat := 0
  /-- variables set for every process, below those of a request -/
  env : Environment := .empty
deriving Inhabited, DecidableEq

/-- Holds where there is no section for git. -/
def GitSection.default : GitSection where
  program := defaultGitProgram
  captureLimit := defaultCaptureLimit
  timeoutSeconds := 0
  env := .empty

/-- The deadline of a request in seconds. -/
def GitSection.timeout (git : GitSection) : Option Nat :=
  if git.timeoutSeconds = 0 then none else some git.timeoutSeconds

/-- The program that moves large files. -/
def defaultTransferProgram : String := "git-lfs-transfer"

/-- The program that lets clients fetch large files elsewhere. -/
def defaultAuthenticateProgram : String := "git-lfs-authenticate"

/-- How the large file services are run. -/
structure LfsSection where
  /-- whether they are served at all -/
  enabled : Bool := true
  transferProgram : String := defaultTransferProgram
  authenticateProgram : String := defaultAuthenticateProgram
deriving Inhabited, DecidableEq

/-- Holds where there is no section for large files. -/
def LfsSection.default : LfsSection where
  enabled := true
  transferProgram := defaultTransferProgram
  authenticateProgram := defaultAuthenticateProgram

/-- The form of log lines. -/
inductive LogFormat where
  | json
  | pretty
deriving Repr, Inhabited, DecidableEq

/-- The form that is not asked for. -/
def LogFormat.default : LogFormat := .json

/-- The name of a form of log lines. -/
def LogFormat.name : LogFormat → String
  | .json => "json"
  | .pretty => "pretty"

structure LogSection where
  format : LogFormat := .default
deriving Inhabited, DecidableEq

/-- Holds where there is no section for the log. -/
def LogSection.default : LogSection where
  format := .default

structure Config where
  git : GitSection := .default
  lfs : LfsSection := .default
  log : LogSection := .default
deriving Inhabited, DecidableEq

/-- The configuration where there is none. -/
def Config.default : Config where
  git := .default
  lfs := .default
  log := .default

end GitSteward
