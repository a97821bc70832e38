-- The command line of git. It has a fixed beginning and a fixed end, and the arguments of the
-- request stand between them in the order in which they were added. So whatever they are, they are
-- never taken for anything else, and what was asked for can be read back.
import GitSteward.Proofs.Request
import Mathlib.Data.List.Basic

namespace GitSteward

variable {s s' : Service} {given given' : List String} {text : String}

/-! ## Texts without a NUL -/

theorem passedText_of_clean (h : hasNul text = false) : passedText text = text := by
  rw [passedText, h, if_neg (by simp)]

theorem map_passedText_of_clean (h : ∀ text ∈ given, hasNul text = false) :
    given.map passedText = given := by
  refine (List.map_congr_left fun text ht => ?_).trans (List.map_id given)
  exact passedText_of_clean (h text ht)

namespace Launch

/-! ## The layout -/

theorem safetyFlags_clean : ∀ flag ∈ safetyFlags, hasNul flag = false := by decide

theorem shortName_clean (s : Service) : hasNul s.shortName = false := by cases s <;> decide

/-- What is not the request's own is passed on as it is. -/
theorem map_passedText_gitArgs (s : Service) (given : List String) :
    (gitArgs s given).map passedText = gitArgs s (given.map passedText) := by
  have dot : passedText "." = "." := passedText_of_clean (by decide)
  simp only [gitArgs, List.map_append, List.map_cons, List.map_nil, dot,
    map_passedText_of_clean safetyFlags_clean, passedText_of_clean (shortName_clean s)]

theorem any_hasNul_gitArgs (s : Service) (given : List String) :
    (gitArgs s given).any hasNul = given.any hasNul := by
  have flags : safetyFlags.any hasNul = false := by decide
  have dot : hasNul "." = false := by decide
  simp [gitArgs, flags, shortName_clean, dot]

theorem eq_of_shortName (h : s.shortName = s'.shortName) : s = s' := by
  cases s <;> cases s' <;> first | rfl | simp [Service.shortName] at h

/-- The layout can be read in one way only. -/
theorem gitArgs_inj : gitArgs s given = gitArgs s' given' ↔ s = s' ∧ given = given' := by
  constructor
  · intro h
    -- the flags before and the end behind are the same, so what stands between them is
    simp only [gitArgs, List.append_assoc, List.append_cancel_left_eq, List.cons_append,
      List.cons.injEq, List.append_cancel_right_eq] at h
    exact ⟨eq_of_shortName h.1, h.2⟩
  · rintro ⟨rfl, rfl⟩
    rfl

end Launch

/-- What git is started with beyond what a program is started with. -/
theorem Request.gitLaunch_eq_affixes (r : Request) (program : String) (ambient : Assignments)
    (s : Service) : r.gitLaunch program ambient s = { r.launch program ambient with
      args := Launch.safetyFlags ++ s.shortName :: (r.launch program ambient).args ++ ["."] } := by
  rw [gitLaunch_eq, args_launch]
  simp only [launch, spelledOut, Launch.addArgs, Launch.map_passedText_gitArgs,
    Launch.any_hasNul_gitArgs]
  rfl

/-! ## What is presented -/

/-- A git process for a service, in a directory, with arguments that a request has added. -/
structure LaidOut (program dir : String) (s : Service) (given : List String) (l : Launch) :
    Prop where
  runs : l.program = passedText program
  within : l.dir = passedText dir
  /-- flags, subcommand, arguments in order, and the directory itself -/
  args : l.args = Launch.safetyFlags ++ s.shortName :: given.map passedText ++ ["."]
  exact : (∀ text ∈ given, hasNul text = false) →
    l.args = Launch.safetyFlags ++ s.shortName :: given ++ ["."]
  /-- whatever the arguments are, the flags, the subcommand and the end keep their places -/
  flags : Launch.safetyFlags <+: l.args
  subcommand : l.args[Launch.safetyFlags.length]? = some s.shortName
  last : l.args.getLast? = some "."
  /-- what holds a NUL is never started -/
  refused : l.refused ↔ hasNul program ∨ hasNul dir ∨ ∃ text ∈ given, hasNul text

theorem laidOut (r : Request) (program : String) (ambient : Assignments) (s : Service) :
    LaidOut program r.dir s r.args (r.gitLaunch program ambient s) := by
  have hargs : (r.gitLaunch program ambient s).args =
      Launch.safetyFlags ++ s.shortName :: r.args.map passedText ++ ["."] := by
    rw [Request.gitLaunch_eq_affixes, Request.args_launch]
  refine ⟨rfl, rfl, hargs, fun clean => ?_, ?_, ?_, ?_, ?_⟩
  · rw [hargs, map_passedText_of_clean clean]
  · rw [hargs, List.append_assoc]
    exact List.prefix_append _ _
  · rw [hargs, List.append_assoc, List.getElem?_append_right (Nat.le_refl _), Nat.sub_self]
    rfl
  · rw [hargs, List.getLast?_concat]
  · rw [Request.gitLaunch_eq_affixes]
    simp [Request.launch, Request.base, Launch.addArgs, Launch.ofProgram, or_assoc]

theorem laidOut_of_build (program : String) (ambient : Assignments) (dir : String)
    (steps : List RequestStep) (s : Service) :
    LaidOut program dir s (steps.flatMap (·.texts))
      ((Request.build dir steps).gitLaunch program ambient s) := by
  have hdir : (Request.build dir steps).dir = dir := Request.dir_of_steps { dir } steps
  have hargs : (Request.build dir steps).args = steps.flatMap (·.texts) :=
    Request.args_of_steps { dir } steps
  have laid := laidOut (Request.build dir steps) program ambient s
  rwa [hdir, hargs] at laid

/-! ## The law -/

/-- What git is started with for requests that are put together by steps. -/
structure CommandLineLaw (program : String) (ambient : Assignments) : Prop where
  /-- all texts are passed on as they are, but for those that no process can be given -/
  kept : ∀ text, hasNul text = false → passedText text = text
  /-- the arguments stand in the order of the steps that added them -/
  laid : ∀ dir steps s, LaidOut program dir s (steps.flatMap (·.texts))
    ((Request.build dir steps).gitLaunch program ambient s)
  /-- no arguments make one service look like another one -/
  service : ∀ dir dir' steps steps' s s',
    ((Request.build dir steps).gitLaunch program ambient s).args =
      ((Request.build dir' steps').gitLaunch program ambient s').args → s = s'
  /-- and they can be read back themselves if the system can take them -/
  arguments : ∀ dir dir' steps steps' s s',
    (∀ text ∈ steps.flatMap (·.texts), hasNul text = false) →
    (∀ text ∈ steps'.flatMap (·.texts), hasNul text = false) →
    ((Request.build dir steps).gitLaunch program ambient s).args =
      ((Request.build dir' steps').gitLaunch program ambient s').args →
    s = s' ∧ steps.flatMap (·.texts) = steps'.flatMap (·.texts)
  comm : ∀ (r : Request) a b, a.field ≠ b.field → (r.apply a).apply b = (r.apply b).apply a
  /-- anywhere in a request, only the order of the steps on the same field counts -/
  order : ∀ dir steps steps', (∀ f : RequestField,
    steps.filter (·.field = f) = steps'.filter (·.field = f)) →
    Request.build dir steps = Request.build dir steps'
  /-- what is added at once could have been added one by one -/
  args : ∀ dir before texts after, Request.build dir (before ++ .args texts :: after) =
    Request.build dir (before ++ texts.map .arg ++ after)
  envs : ∀ dir before assignments after,
    Request.build dir (before ++ .envs assignments :: after) =
      Request.build dir (before ++ assignments.map (fun a => .env a.1 a.2) ++ after)

/-- The command line of git tells the service and the arguments that were asked for, and nothing
that a request adds can stand in the place of anything else. -/
theorem the_command_line_is_laid_out (program : String) (ambient : Assignments) :
    CommandLineLaw program ambient where
  kept _ := passedText_of_clean
  laid := laidOut_of_build program ambient
  service dir dir' steps steps' s s' same := by
    rw [(laidOut_of_build program ambient dir steps s).args,
      (laidOut_of_build program ambient dir' steps' s').args] at same
    exact (Launch.gitArgs_inj.mp same).1
  arguments dir dir' steps steps' s s' clean clean' same := by
    rw [(laidOut_of_build program ambient dir steps s).exact clean,
      (laidOut_of_build program ambient dir' steps' s').exact clean'] at same
    exact Launch.gitArgs_inj.mp same
  comm r _ _ h := r.apply_comm h
  order dir _ _ h := Request.steps_of_fields { dir } h
  args dir before texts after :=
    Request.build_replace (fun r => r.apply_args texts) dir before after
  envs dir before assignments after :=
    Request.build_replace (fun r => r.apply_envs assignments) dir before after

/-- Arguments that look like parts of the layout are still arguments. -/
example :
    ((Request.build "/srv/a.git" [.args ["-c", "--"], .env "A" "1", .arg "."]).gitLaunch "git" []
      .uploadPack).args = Launch.safetyFlags ++ ["upload-pack", "-c", "--", ".", "."] := by decide

end GitSteward
