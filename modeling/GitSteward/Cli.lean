-- The program: one request that comes from the command line, with the standard streams of the
-- program as those of the client. How the request ended is told by the exit code, and by a
-- last line on the error output.
import GitSteward.Cli.Arguments
import GitSteward.Host.Configuration
import GitSteward.Host.Session
import GitSteward.Log.Filter

namespace GitSteward.Cli

/-! ## How a request ended -/

/-- The exit code for a status: its code, but never that of success. -/
def statusCode (s : WaitStatus) : UInt8 := (max 1 (min 255 (s.code?.getD 1))).toUInt8

/-- The exit code for an outcome. -/
def exitCode : Outcome → UInt8
  | .ok () => 0
  | .error .invalidRepository => 128
  | .error (.exit status _) => statusCode status
  | .error _ => 1

/-- A last line that tells what went wrong. -/
def fatal (message : String) : String := "fatal: " ++ message ++ "\n"

/-- The last line for an outcome of a request that concerns a directory. A process that ended
badly has told why itself. -/
def complaint (dir : String) : Outcome → String
  | .ok () => ""
  | .error .invalidRepository =>
    fatal ("\x27" ++ dir ++ "\x27 does not appear to be a git repository")
  | .error (.exit _ _) => ""
  | .error f => fatal f.message

/-! ## Signals -/

/-- What a signal does to the program while it serves. -/
inductive Reaction where
  /-- the request is cancelled -/
  | cancel
  | none
  | die
deriving Repr, DecidableEq, Inhabited

/-- The name of a signal. -/
def signalName (signal : Nat) : String := (WaitStatus.signalNames[signal - 1]?).getD ""

/-- The signals by which a user asks the program to stop. -/
def stopSignals : List String := ["SIGINT", "SIGTERM"]

/-- The signals that do nothing to the program, or only stop it for a while. -/
def harmlessSignals : List String :=
  ["SIGPIPE", "SIGCHLD", "SIGCONT", "SIGSTOP", "SIGTSTP", "SIGTTIN", "SIGTTOU", "SIGURG",
    "SIGWINCH"]

def Reaction.ofSignal (signal : Nat) : Reaction :=
  if stopSignals.contains (signalName signal) then .cancel
  else if harmlessSignals.contains (signalName signal) then .none
  else .die

/-- A signal that is sent a while after the output shows some bytes. -/
structure Interruption where
  signal : Nat
  shown : Bytes
  after : Nat
deriving Repr, Inhabited

/-! ## Running -/

/-- The program as it is called. -/
structure Program where
  files : Host.Files
  /-- the directory it is called in -/
  here : Host.Path
  env : Environment
  /-- its arguments -/
  words : List String
  stdin : Source := {}
  interruption : Option Interruption := none
deriving Inhabited

/-- How the program ended. -/
inductive Ending where
  | exited (code : UInt8)
  | killed (signal : Nat)
deriving Repr, DecidableEq, Inhabited

/-- What is seen of the program. -/
structure Report where
  ending : Ending
  stdout : Bytes := []
  /-- the error output without the log, which goes there as well -/
  stderr : Bytes := []
  log : List LogEvent := []
deriving Inhabited

/-- The part of the program that reads the command line, in the log. -/
def origin : String := "forgeserve"

/-- The whole lines of output. -/
def wholeLines (output : Bytes) : Bytes := (output.reverse.dropWhile (· ≠ 0x0A)).reverse

/-- Which events of the log are shown. The environment may tell. -/
def logFilter (env : Environment) : LogFilter :=
  ((env.get? "RUST_LOG").bind LogFilter.ofText?).getD (.upTo .info)

namespace Program

/-- The configuration, with what the command line says of it. -/
def config (p : Program) (a : Arguments) : Except ConfigError Config := do
  let config ← match a.config with
    | some path => Host.loadConfig p.files p.here p.stdin.data path
    | none => .ok .default
  return match a.timeoutSeconds with
    | some seconds => { config with git := { config.git with timeoutSeconds := seconds } }
    | none => config

/-- The directory of the request: without links and detours, if it is there. -/
def directory (p : Program) (a : Arguments) : String :=
  match p.files.find p.here a.dir with
  | .ok (path, _) => path.text
  | .error _ => a.dir

/-- What is left of the input once the configuration has been read, which may be the input. -/
def inputAfter (p : Program) (a : Arguments) : Source :=
  if a.config.any (Host.isInput p.files p.here) then { p.stdin with data := [] } else p.stdin

/-- The request of the command line. -/
def request (p : Program) (a : Arguments) : Request where
  dir := p.directory a
  args := a.args
  env := a.env
  stdin := some (p.inputAfter a)
  stdout := some {}
  stderr := some {}

/-- The program when it has taken on its request. -/
def start (p : Program) (a : Arguments) (config : Config) : Host.Session :=
  let workload : Workload := {
    engine := .ofConfig p.env config
    tokens := .root
    log := [
      { level := .info, origin, message := "starting forgeserve"
        fields := [("service", a.service), ("dir", a.dir)] }] }
  ({ workload, machine := .ofFiles p.files, here := p.here } : Host.Session).arrive
    (.serve a.service) (p.request a) 0 .never

/-- The task of a session that copies an output. -/
def copierOf (s : Host.Session) (stream : StreamName) : Option Copier :=
  match s.workload.jobs.head?.map Job.work with
  | some (.process call) => call.copierOf stream
  | _ => none

/-- What a session has written to an output of the program. -/
def written (s : Host.Session) (stream : StreamName) : Bytes :=
  ((copierOf s stream).map (·.taken.bytes)).getD []

/-- What there is to see of the output while the program still goes on: whole lines are passed
on at once, and what follows them when the output is flushed. -/
def visible (s : Host.Session) : Bytes :=
  ((copierOf s .stdout).map (·.shown fun taken => (wholeLines taken).length)).getD []

/-- The session after a signal that the program reacts to by cancelling its request. -/
def cancelled (s : Host.Session) (signal : Nat) : Host.Session :=
  let event : LogEvent :=
    { level := .info, origin, message := "received " ++ signalName signal }
  ({ s with workload := s.workload.write event } : Host.Session).step (.cancel 0)

/-- What is seen of a program that has come to its end by itself. -/
def report (dir : String) (s : Host.Session) : Report :=
  let outcome := ((s.workload.jobs.head?).bind (·.outcome)).getD (.error .cancelled)
  { ending := .exited (exitCode outcome)
    stdout := written s .stdout
    stderr := written s .stderr ++ Text.utf8 (complaint dir outcome)
    log := s.workload.log }

/-- The program from when it has taken on its request. -/
def serve (p : Program) (dir : String) (s : Host.Session) : Report :=
  match p.interruption with
  | none => report dir s.settle
  | some i =>
    let s := s.runUntil fun s => Host.Session.holdsBytes i.shown (visible s)
    let s := s.runOn i.after
    if s.isOver 0 then report dir s
    else match Reaction.ofSignal i.signal with
      | .cancel => report dir (cancelled s i.signal).settle
      | .none => report dir s.settle
      | .die =>
        { ending := .killed i.signal
          stdout := visible s
          stderr := written s .stderr
          log := s.workload.log }

/-- Runs the program. -/
def run (p : Program) : Report :=
  match Arguments.ofWords p.words with
  | .error .help => { ending := .exited 0, stdout := Text.utf8 helpText }
  | .error (.usage e) => { ending := .exited 2, stderr := Text.utf8 e.message }
  | .ok a =>
    match p.config a with
    | .error e =>
      { ending := .exited 1, stderr := Text.utf8 (fatal (": ".intercalate e.messages)) }
    | .ok config =>
      let report := p.serve (p.directory a) (p.start a config)
      { report with log := report.log.filter (logFilter p.env).shows }

end Program

end GitSteward.Cli
