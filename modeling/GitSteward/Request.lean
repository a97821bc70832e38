-- A request: the directory it concerns, what it adds to the command and the environment, the
-- streams of the client, and a hook that may still change the process.
import GitSteward.Launch
import GitSteward.Stream.Sink
import GitSteward.Stream.Source

namespace GitSteward

/-- What a hook makes of a process that is about to be started. -/
abbrev Hook := Launch → Launch

structure Request where
  dir : String
  args : List String := []
  env : Assignments := []
  stdin : Option Source := none
  stdout : Option Sink := none
  stderr : Option Sink := none
  hook : Option Hook := none
deriving Inhabited

/-- One step in putting a request together. -/
inductive RequestStep where
  | arg (text : String)
  | args (texts : List String)
  | env (name value : String)
  | envs (assignments : Assignments)
  | stdin (source : Source)
  | stdout (sink : Sink)
  | stderr (sink : Sink)
  | hook (hook : Hook)
deriving Inhabited

namespace Request

/-- Takes a step. Texts are added after those that are there, and a stream or a hook takes the
place of an earlier one. -/
def apply (r : Request) : RequestStep → Request
  | .arg text => { r with args := r.args ++ [text] }
  | .args texts => { r with args := r.args ++ texts }
  | .env name value => { r with env := r.env ++ [(name, value)] }
  | .envs assignments => { r with env := r.env ++ assignments }
  | .stdin source => { r with stdin := some source }
  | .stdout sink => { r with stdout := some sink }
  | .stderr sink => { r with stderr := some sink }
  | .hook hook => { r with hook := some hook }

/-- The request for a directory that steps put together. -/
def build (dir : String) (steps : List RequestStep) : Request := steps.foldl apply { dir }

/-- A program in the directory of the request, still without arguments. The environment starts
from the ambient assignments, and those of the request come after them. -/
def base (r : Request) (program : String) (ambient : Assignments) : Launch :=
  .ofProgram program r.dir ((Environment.ofAssignments ambient).setAll r.env)

/-- The process of a program that adds nothing of its own to the request. -/
def launch (r : Request) (program : String) (ambient : Assignments) : Launch :=
  (r.base program ambient).addArgs r.args

/-- The git process for a service. -/
def gitLaunch (r : Request) (program : String) (ambient : Assignments) (service : Service) :
    Launch :=
  let flagged := (r.base program ambient).addArgs Launch.safetyFlags
  ((flagged.addArg service.shortName).addArgs r.args).addArg "."

end Request

end GitSteward
