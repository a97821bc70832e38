-- The variables of a process, from where they are given to the texts that the process gets. The
-- names come from the server, from a configuration that was checked and from assignments that were
-- read. None of them can be mistaken for another one, so what was merged comes back from the texts.
import GitSteward.Proofs.Cli.Reading
import GitSteward.Proofs.Cli.Serving
import GitSteward.Proofs.Workload.Environments

namespace GitSteward

variable {ambient own l : Assignments} {config : Config} {name value : String} {w w' : Workload}
variable {r : Request} {entry : Entry} {token : Nat} {runner : Runner} {given : Launch}

/-! ## Merging -/

/-- What a name is set to by the request, or else by the configuration, or else by the server. -/
def merged (ambient : Assignments) (config : Config) (own : Assignments) (name : String) :
    Option String :=
  ((lastOf own name).or (config.git.env.get? name)).or (lastOf ambient name)

/-- A server with an accepted configuration, and a request with assignments that were read. All
names that the server itself found can be those of variables. -/
structure Sources (w : Workload) (ambient : Assignments) (config : Config) (r : Request)
    (own : Assignments) : Prop where
  found : ∀ a ∈ ambient, GoodKey a.1
  accepted : config.check = .ok ()
  engine : w.engine = .ofSnapshot ambient (Engine.configSettings config)
  read : ∃ texts : List String, texts.map assignment? = own.map some
  request : r.env = own

theorem Sources.goodKey (h : Sources w ambient config r own)
    (hname : merged ambient config own name = some value) : GoodKey name := by
  rw [merged, Option.or_eq_some_iff, Option.or_eq_some_iff] at hname
  -- the request, the configuration or the server has named it
  rcases hname with (hown | ⟨_, hconfig⟩) | ⟨_, hambient⟩
  · exact FromTexts.goodKey h.read (mem_of_lastOf hown)
  · rcases check_cases config with ⟨_, sound⟩ | ⟨e, _, he, _⟩
    · exact sound.keys name (Environment.mem_names.mpr (by rw [hconfig]; rfl))
    · cases h.accepted.symm.trans he
  · exact h.found _ (mem_of_lastOf hambient)

theorem Sources.get? (h : Sources w ambient config r own)
    (hb : entry.backend w.engine r = .process runner given) :
    given.env.get? = merged ambient config own := by
  obtain ⟨_, _, runs, assembles⟩ := Engine.assembles_of_entry hb
  rw [h.engine] at runs
  have starts := (Engine.Layered.settings ambient (Engine.configSettings config)).starts runs
  obtain ⟨ha, he⟩ := Engine.layers_of_config ambient config
  funext name
  rw [assembles.env, Environment.get?_setAll, assign_apply, Environment.get?_ofAssignments,
    assign_apply, starts, ha, he, lastOf_append, lastOf_entries, Option.or_none, h.request, merged,
    Option.or_assoc]

theorem Sources.comesBack (h : Sources w ambient config r own)
    (hb : entry.backend w.engine r = .process runner given) :
    ComesBack (merged ambient config own) given.env := by
  rw [← h.get? hb]
  refine GitSteward.comesBack fun name hname => ?_
  obtain ⟨value, hvalue⟩ := Option.isSome_iff_exists.mp (Environment.mem_names.mp hname)
  exact h.goodKey ((h.get? hb) ▸ hvalue)

/-- The process of a request without a hook is started with what was merged. -/
theorem Sources.started {i : Nat} {j : Job} {c : Call} (h : Sources w ambient config r own)
    (hb : entry.backend w.engine r = .process runner given)
    (follows : w'.Follows (Workload.callOf r runner given) i j c) (unhooked : r.hook = none)
    (started : c.hasStarted) : ComesBack (merged ambient config own) c.launch.env := by
  rw [follows.startsOnce.streams started, Workload.env_withStreams, unhooked]
  exact h.comesBack hb

namespace Cli

/-! ## The program -/

theorem sources_of_program {p : Program} {a : Arguments}
    (found : ∀ name ∈ p.env.names, GoodKey name)
    (hread : Arguments.ofWords p.words = .ok a) (haccepted : p.config a = .ok config)
    (engine : w.engine = .ofConfig p.env config) :
    Sources w p.env.entries config (p.request a) a.env where
  found b hb := found b.1 (List.mem_map_of_mem hb)
  accepted := check_of_config haccepted
  engine := engine
  read := Arguments.env_of_words hread
  request := rfl

/-! ## The law -/

/-- What becomes of assignments on their way to a process and back from its texts. -/
structure AssignmentLaw (p : Program) : Prop where
  /-- the name is what stands before the first sign, and the value is all that comes after it -/
  read : ∀ s name value, assignment? s = some (name, value) ↔
    s = name ++ "=" ++ value ∧ name ≠ "" ∧ '=' ∉ name.toList
  unread : ∀ s, assignment? s = none ↔ '=' ∉ s.toList ∨ ∃ rest, s = "=" ++ rest
  unique : ∀ name value name' value', '=' ∉ name.toList → '=' ∉ name'.toList →
    name ++ "=" ++ value = name' ++ "=" ++ value' → name = name' ∧ value = value'
  /-- the hook is given what comes back, and without a hook the process is started with it -/
  process : ∀ w ambient config r own, Sources w ambient config r own →
    ∀ entry token runner given w', entry.backend w.engine r = .process runner given →
      (w.arrive entry r token).Becomes w' →
      ComesBack (merged ambient config own) given.env ∧
        ∃ j c, w'.jobs[w.jobs.length]? = some j ∧ j.work = .process c ∧
          (r.hook = none → c.hasStarted → ComesBack (merged ambient config own) c.launch.env)
  /-- a command line that is run and a configuration that is gone on with are always such sources -/
  program : (∀ name ∈ p.env.names, GoodKey name) →
    ∀ a config, Arguments.ofWords p.words = .ok a → p.config a = .ok config →
      ∀ w j c, (p.start a config).workload.Becomes w → w.jobs[0]? = some j →
        j.work = .process c → c.hasStarted →
        ComesBack (merged p.env.entries config a.env) c.launch.env

/-- Assignments are read in one way only, and what was merged from accepted ones comes back from
the texts that a process gets. -/
theorem assignments_come_back (p : Program) : AssignmentLaw p where
  read _ _ _ := assignment?_eq_some_iff
  unread _ := assignment?_eq_none_iff
  unique name value name' value' hname hname' same := by
    have back := splitAssignment_assignmentText (a := (name, value)) hname
    have back' := splitAssignment_assignmentText (a := (name', value')) hname'
    rw [assignmentText, same] at back
    cases back.symm.trans back'
    exact ⟨rfl, rfl⟩
  process w ambient config r own sources entry token runner given w' hb becomes := by
    obtain ⟨j₀, follows₀, _⟩ := Workload.follows_of_arrive token hb
    obtain ⟨j, c, follows⟩ := follows₀.becomes Workload.isFresh_callOf becomes
    exact ⟨sources.comesBack hb, j, c, follows.job, follows.work, sources.started hb follows⟩
  program found a config hread haccepted w j c becomes hj hw started := by
    cases attended_of_becomes becomes with
    | process hb follows =>
      cases follows.job.symm.trans hj
      cases follows.work.symm.trans hw
      have sources := sources_of_program (w := { engine := .ofConfig p.env config }) found hread
        haccepted rfl
      exact sources.started hb follows rfl started
    | refused away =>
      cases away.job.symm.trans hj
      cases away.work.symm.trans hw

/-- A configuration with a value that holds a sign itself. -/
def tellingConfig : Config where
  git := { env := .ofAssignments [("GREETING", "a=b"), ("LANG", "C")] }

/-- A server with that configuration. -/
def tellingServer : Workload where
  engine := .ofSnapshot [("PATH", "/bin"), ("LANG", "de")] (Engine.configSettings tellingConfig)

/-- A request with an empty value. -/
def tellingRequest : Request where
  dir := "/srv/a.git"
  env := [("LANG", ""), ("TERM", "=")]

/-- Values may be empty, and may hold signs. -/
theorem values_with_signs_come_back :
    ∃ w' j c, (tellingServer.arrive (.handle .uploadPack) tellingRequest 0).Becomes w' ∧
      w'.jobs[0]? = some j ∧ j.work = .process c ∧
      c.launch.env.block = ["GREETING=a=b", "LANG=", "PATH=/bin", "TERM=="] ∧
      ComesBack (merged [("PATH", "/bin"), ("LANG", "de")] tellingConfig
        [("LANG", ""), ("TERM", "=")]) c.launch.env := by
  have names : tellingConfig.git.env.names = ["GREETING", "LANG"] := by decide +kernel
  have accepted : tellingConfig.check = .ok () := by
    rw [check_eq, names]
    simp [tellingConfig, defaultGitProgram, defaultCaptureLimit, LfsSection.default,
      defaultTransferProgram, defaultAuthenticateProgram, isVariableName, String.contains_char_eq]
  have sources : Sources tellingServer [("PATH", "/bin"), ("LANG", "de")] tellingConfig
      tellingRequest [("LANG", ""), ("TERM", "=")] :=
    { found := by simp [GoodKey]
      accepted := accepted
      engine := rfl
      read := ⟨["LANG=", "TERM=="], by rfl⟩
      request := rfl }
  have becomes : (tellingServer.arrive (.handle .uploadPack) tellingRequest 0).Becomes _ :=
    .moved (m := .work 0 (.call .spawn)) (.moved (m := .work 0 (.call .enter)) .here rfl) rfl
  obtain ⟨_, j, c, hj, hw, back⟩ := (assignments_come_back default).process _ _ _ _ _ sources
    (.handle .uploadPack) 0 _ _ _ rfl becomes
  cases hj
  cases hw
  exact ⟨_, _, _, becomes, rfl, rfl, by decide +kernel, back rfl rfl⟩

end Cli

end GitSteward
