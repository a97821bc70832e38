-- The environment that a process is started with. It starts from nothing, and the ambient layer of
-- the engine, its extension and the assignments of the request are laid over it in this order. Then
-- the hook changes it.
import GitSteward.Cli
import GitSteward.Proofs.Environment
import GitSteward.Proofs.Layers
import GitSteward.Proofs.Workload.Starting

namespace GitSteward

/-- The assignments that a step adds to a request. -/
def RequestStep.assignments : RequestStep → Assignments
  | .env name value => [(name, value)]
  | .envs assignments => assignments
  | .arg _ | .args _ | .stdin _ | .stdout _ | .stderr _ | .hook _ => []

namespace Request

/-- A request, put together by steps or from a command line, with its assignments in order. -/
inductive Holds : Request → Assignments → Prop
  | steps (dir : String) (steps : List RequestStep) :
      Holds (build dir steps) (steps.flatMap (·.assignments))
  | commandLine (p : Cli.Program) (a : Cli.Arguments) : Holds (p.request a) a.env

theorem env_of_steps (r : Request) (steps : List RequestStep) :
    (steps.foldl apply r).env = r.env ++ steps.flatMap (·.assignments) := by
  refine added_by_steps (fun r step => ?_) r steps
  cases step with
  | env | envs => rfl
  | arg | args | stdin | stdout | stderr | hook => exact (List.append_nil _).symm

theorem Holds.env {r : Request} {own : Assignments} (h : r.Holds own) : r.env = own := by
  cases h with
  | steps dir steps => exact env_of_steps { dir } steps
  | commandLine => rfl

end Request

namespace Workload

variable {w w' : Workload} {moves : List WorkloadMove} {entry : Entry} {r : Request} {token : Nat}
variable {runner : Runner} {given : Launch} {edits : List Edit} {env : Environment}
variable {ambient extension own : Assignments}

/-- What the names are set to when all layers have been laid over each other and the changes of a
hook have been made. -/
def laidOver (ambient extension own : Assignments) (edits : List Edit) : String → Option String :=
  edits.foldl Edit.vars (assign (assign (assign (fun _ => none) ambient) extension) own)

/-- An environment is made of layers and changes, and of nothing else. -/
structure Layers (ambient extension own : Assignments) (edits : List Edit) (env : Environment) :
    Prop where
  entries : ∀ name value,
    (name, value) ∈ env.entries ↔ laidOver ambient extension own edits name = some value
  unique : env.names.Nodup
  /-- the upper layers hide the lower ones, and within a layer the last assignment counts -/
  unchanged : edits = [] → ∀ name, env.get? name =
    ((lastOf own name).or (lastOf extension name)).or (lastOf ambient name)

theorem layers_of_get? (h : env.get? = laidOver ambient extension own edits) :
    Layers ambient extension own edits env := by
  refine ⟨fun name value => by rw [Environment.mem_entries, h], env.nodup_names, ?_⟩
  rintro rfl name
  rw [h, laidOver, List.foldl_nil, assign_apply, assign_apply, assign_apply, Option.or_none,
    Option.or_assoc]

/-- The environment that is laid over before the hook runs. -/
theorem env_of_assembles {s : Service} (assembles : Engine.Assembles s r runner given)
    (starts : runner.context.ambient = ambient ++ extension) (holds : r.Holds own) :
    given.env.get? = laidOver ambient extension own [] := by
  rw [assembles.env, Environment.get?_setAll, Environment.get?_ofAssignments, starts, holds.env]
  simp only [laidOver, List.foldl_nil, assign, List.foldl_append]

theorem env_withStreams (l : Launch) (stdin stdout stderr : Bool) :
    (l.withStreams stdin stdout stderr).env = l.env := rfl

/-- The environment of every process that an engine starts, be it git or an external program, is
laid over in the same way. Whatever the server itself was started with, nothing else comes in. -/
theorem the_environment_is_laid_over (layered : w.engine.Layered ambient extension)
    (holds : r.Holds own) (hooked : ∀ l : Launch, l.changedBy r.hook = l.editAll edits)
    (hb : entry.backend w.engine r = .process runner given)
    (ran : (w.arrive entry r token).run moves = some w') :
    ∃ j c, w'.jobs[w.jobs.length]? = some j ∧ j.work = .process c ∧
      (c.hasStarted → Layers ambient extension own edits c.launch.env) := by
  obtain ⟨_, _, runs, assembles⟩ := Engine.assembles_of_entry hb
  obtain ⟨j, c, h⟩ := follows_of_run hb ran
  refine ⟨j, c, h.job, h.work, fun started => layers_of_get? ?_⟩
  have before := env_of_assembles assembles (layered.starts runs) holds
  rw [h.startsOnce.streams started, env_withStreams, hooked, get?_editAll, before]
  rfl

/-- A server with settings that get into each other's way. -/
def crowdedServer : Workload where
  engine := .ofSnapshot [("HOME", "/root"), ("PATH", "/bin")] [
    .extend [("LANG", "C")], .ambient [("PATH", "/bin"), ("PATH", "/usr/bin"), ("TZ", "UTC")],
    .lfsPrograms "transfer" "authenticate", .extend [("TZ", "CET"), ("LANG", "de")]]

/-- A request with assignments of its own, and a hook that changes them. -/
def settingRequest : Request :=
  .build "/srv/a.git" [.env "LANG" "en", .envs [("TERM", "dumb"), ("LANG", "fr")],
    .hook fun l => l.editAll [.unset "TERM", .set "A" "1"]]

/-- The same for an external program as for git. -/
theorem the_environment_of_an_external_program_is_laid_over :
    ∃ w' j c, (crowdedServer.arrive (.handle .lfsTransfer) settingRequest 0).run
        [.work 0 (.call .enter), .work 0 (.call .spawn)] = some w' ∧
      w'.jobs[0]? = some j ∧ j.work = .process c ∧
      c.launch.env.entries =
        [("A", "1"), ("LANG", "fr"), ("PATH", "/usr/bin"), ("TZ", "CET")] ∧
      Layers [("PATH", "/bin"), ("PATH", "/usr/bin"), ("TZ", "UTC")]
        [("TZ", "CET"), ("LANG", "de")] [("LANG", "en"), ("TERM", "dumb"), ("LANG", "fr")]
        [.unset "TERM", .set "A" "1"] c.launch.env := by
  have ran : (crowdedServer.arrive (.handle .lfsTransfer) settingRequest 0).run
      [.work 0 (.call .enter), .work 0 (.call .spawn)] = some _ := rfl
  obtain ⟨j, c, hj, hw, layers⟩ := the_environment_is_laid_over
    (.settings _ _) (.steps _ _) (fun _ => rfl) rfl ran
  cases hj
  cases hw
  exact ⟨_, _, _, ran, rfl, rfl, by decide +kernel, layers rfl⟩

end Workload

end GitSteward
