-- The engine: which program or handler serves which service, and how. It is put together by
-- settings, of which the last of its kind counts.
import GitSteward.Config
import GitSteward.Engine.Handler

namespace GitSteward

/-- Where the faults of streams are reported to. -/
inductive FaultSink where
  /-- they are written to the log -/
  | logged
  /-- they are kept for the caller, in a record of this number -/
  | recorded (record : Nat := 0)
deriving Repr, DecidableEq, Inhabited

/-- What all processes of an engine have in common. -/
structure ProcessContext where
  /-- the assignments that an environment starts from -/
  ambient : Assignments := []
  faults : FaultSink := .logged
  captureLimit : Nat := defaultCaptureLimit
deriving Repr, DecidableEq, Inhabited

/-- A program and how it is run. -/
structure Runner where
  program : String
  context : ProcessContext
deriving Repr, DecidableEq, Inhabited

/-- What serves a large file service. -/
inductive LfsBackend where
  | program (runner : Runner)
  | handler (handler : Handler)
  /-- nothing: the service is turned away -/
  | disabled
deriving Inhabited

structure Engine where
  git : Runner
  transfer : LfsBackend
  authenticate : LfsBackend
  /-- the number of the registry that invocations are counted in -/
  registry : Option Nat
  /-- the deadline of a request in nanoseconds -/
  timeout : Option Nat
deriving Inhabited

/-- Whether invocations are counted. -/
def Engine.metrics (e : Engine) : Bool := e.registry.isSome

/-! ## Settings -/

/-- One setting of an engine. -/
inductive Setting where
  | gitProgram (program : String)
  /-- takes the place of the ambient assignments -/
  | ambient (assignments : Assignments)
  /-- adds to the ambient assignments -/
  | extend (assignments : Assignments)
  | faults (sink : FaultSink)
  | captureLimit (limit : Nat)
  | transfer (handler : Handler)
  | authenticate (handler : Handler)
  | metrics (registry : Nat := 0)
  | timeout (nanoseconds : Nat)
  | lfsPrograms (transfer authenticate : String)
  | disableLfs
deriving Inhabited

/-- What is put in the place of the external program for a large file service. -/
inductive LfsHandler where
  | given (handler : Handler)
  /-- it turns every request away -/
  | disabled
deriving Inhabited

/-- An engine that is being put together. -/
structure EngineBuilder where
  program : String := "git"
  context : ProcessContext
  transferProgram : String := Service.lfsTransfer.wireName
  authenticateProgram : String := Service.lfsAuthenticate.wireName
  /-- what is to serve a large file service instead of its program -/
  transfer : Option LfsHandler := none
  authenticate : Option LfsHandler := none
  registry : Option Nat := none
  timeout : Option Nat := none
deriving Inhabited

namespace EngineBuilder

/-- A builder that has seen the environment of the server. -/
def ofEnvironment (server : Environment) : EngineBuilder :=
  { context := { ambient := server.entries } }

def apply (b : EngineBuilder) : Setting → EngineBuilder
  | .gitProgram program => { b with program }
  | .ambient assignments => { b with context := { b.context with ambient := assignments } }
  | .extend assignments =>
    { b with context := { b.context with ambient := b.context.ambient ++ assignments } }
  | .faults sink => { b with context := { b.context with faults := sink } }
  | .captureLimit limit => { b with context := { b.context with captureLimit := limit } }
  | .transfer handler => { b with transfer := some (.given handler) }
  | .authenticate handler => { b with authenticate := some (.given handler) }
  | .metrics registry => { b with registry := some registry }
  | .timeout nanoseconds => { b with timeout := some nanoseconds }
  | .lfsPrograms transfer authenticate =>
    { b with
      transferProgram := transfer, authenticateProgram := authenticate
      transfer := none, authenticate := none }
  | .disableLfs => { b with transfer := some .disabled, authenticate := some .disabled }

/-- What serves a large file service: its program, run in the final context, if nothing was put
in its place. -/
def backend (b : EngineBuilder) (program : String) : Option LfsHandler → LfsBackend
  | none => .program ⟨program, b.context⟩
  | some (.given handler) => .handler handler
  | some .disabled => .disabled

def build (b : EngineBuilder) : Engine where
  git := ⟨b.program, b.context⟩
  transfer := b.backend b.transferProgram b.transfer
  authenticate := b.backend b.authenticateProgram b.authenticate
  registry := b.registry
  timeout := b.timeout

end EngineBuilder

namespace Engine

/-- The engine that settings make on a server with some environment. -/
def ofSettings (server : Environment) (settings : List Setting) : Engine :=
  (settings.foldl EngineBuilder.apply (EngineBuilder.ofEnvironment server)).build

/-- The settings that a configuration stands for. -/
def configSettings (c : Config) : List Setting :=
  [.gitProgram c.git.program, .extend c.git.env.entries, .captureLimit c.git.captureLimit] ++
  (c.git.timeout.map fun seconds => Setting.timeout (seconds * 1_000_000_000)).toList ++
  [if c.lfs.enabled then .lfsPrograms c.lfs.transferProgram c.lfs.authenticateProgram
    else .disableLfs]

/-- The engine of a configuration. -/
def ofConfig (server : Environment) (c : Config) : Engine := ofSettings server (configSettings c)

/-! ## Routing -/

/-- What a request is handed to. -/
inductive Backend where
  /-- a process, started as the command says -/
  | process (runner : Runner) (launch : Launch)
  | handler (handler : Handler)
  /-- nothing serves it -/
  | refused (fault : Fault)
deriving Inhabited

/-- Git run for a service. Only subcommands of git can be run. -/
def gitBackend (e : Engine) (s : Service) (r : Request) : Backend :=
  if s.isProcessBacked then
    .process e.git (r.gitLaunch e.git.program e.git.context.ambient s)
  else .refused (.unsupported s.wireName)

/-- A large file service with what serves it. -/
def lfsBackend (s : Service) (b : LfsBackend) (r : Request) : Backend :=
  match b with
  | .program runner => .process runner (r.launch runner.program runner.context.ambient)
  | .handler handler => .handler handler
  | .disabled => .refused (.unsupported s.wireName)

/-- What serves a request for a service. -/
def backend (e : Engine) (s : Service) (r : Request) : Backend :=
  match s with
  | .uploadPack | .uploadArchive | .receivePack => e.gitBackend s r
  | .lfsTransfer => lfsBackend s e.transfer r
  | .lfsAuthenticate => lfsBackend s e.authenticate r

end Engine

end GitSteward
