-- Where a request goes. It is turned away when no service has the name that it asks for, when it
-- asks git for what is not a subcommand of git, and when the service is disabled. Else it goes to
-- a handler, or to a process that is put together from what the engine and the request say.
import GitSteward.Proofs.Request
import GitSteward.Workload

namespace GitSteward

variable {e : Engine} {entry : Entry} {r : Request} {s : Service} {runner : Runner}
variable {launch : Launch}

/-! ## Ways in -/

/-- The service that a request asks for, if there is one. -/
def Entry.service? : Entry → Option Service
  | .serve name => Service.ofWireName? name
  | .handle s | .runGit s => some s

/-- What a request that comes in some way is handed to. -/
def Entry.backend (entry : Entry) (e : Engine) (r : Request) : Engine.Backend :=
  match entry with
  | .serve name =>
    match Service.ofWireName? name with
    | some s => e.backend s r
    | none => .refused (.unsupported name)
  | .handle s => e.backend s r
  | .runGit s => e.gitBackend s r

theorem backend_serve {name : String} (hs : Service.ofWireName? name = some s) :
    (Entry.serve name).backend e r = e.backend s r := by
  simp only [Entry.backend, hs]

theorem backend_unknown {name : String} (hn : Service.ofWireName? name = none) :
    (Entry.serve name).backend e r = .refused (.unsupported name) := by
  simp only [Entry.backend, hn]

namespace Engine

/-! ## Turning away -/

/-- What is to serve a large file service. A git service has nothing of the kind. -/
def lfsBackend? (e : Engine) : Service → Option LfsBackend
  | .lfsTransfer => some e.transfer
  | .lfsAuthenticate => some e.authenticate
  | .uploadPack | .uploadArchive | .receivePack => none

/-- The requests that an engine turns away, whatever they hold, and the name that it tells. -/
inductive TurnsAway (e : Engine) : Entry → String → Prop
  | unknown {name : String} : Service.ofWireName? name = none → TurnsAway e (.serve name) name
  | disabledName {name : String} {s : Service} : Service.ofWireName? name = some s →
      e.lfsBackend? s = some .disabled → TurnsAway e (.serve name) name
  | disabled {s : Service} : e.lfsBackend? s = some .disabled →
      TurnsAway e (.handle s) s.wireName
  | notGit {s : Service} : s.isProcessBacked = false → TurnsAway e (.runGit s) s.wireName

/-- The backend of a large file service is what the engine has for it. -/
theorem backend_of_lfs {b : LfsBackend} (h : e.lfsBackend? s = some b) :
    e.backend s r = lfsBackend s b r := by
  cases s with
  | lfsTransfer | lfsAuthenticate =>
    cases h
    rfl
  | uploadPack | uploadArchive | receivePack => cases h

/-- The backend of a git service is git. -/
theorem backend_of_git (h : e.lfsBackend? s = none) :
    s.isProcessBacked ∧ e.backend s r = e.gitBackend s r := by
  cases s with
  | uploadPack | uploadArchive | receivePack => exact ⟨rfl, rfl⟩
  | lfsTransfer | lfsAuthenticate => cases h

theorem TurnsAway.backend {name : String} (h : e.TurnsAway entry name) :
    entry.backend e r = .refused (.unsupported name) := by
  cases h with
  | unknown hn => exact backend_unknown hn
  | disabledName hs hd =>
    rw [backend_serve hs, backend_of_lfs hd, lfsBackend, Service.wireName_of_ofWireName? hs]
  | disabled hd => rw [Entry.backend, backend_of_lfs hd, lfsBackend]
  | notGit hs => simp [Entry.backend, gitBackend, hs]

theorem disabled_of_refused {f : Fault} (h : e.backend s r = .refused f) :
    e.lfsBackend? s = some .disabled ∧ f = .unsupported s.wireName := by
  cases hb : e.lfsBackend? s with
  | none =>
    obtain ⟨hs, he⟩ := backend_of_git (r := r) hb
    simp [he, gitBackend, hs] at h
  | some b =>
    rw [backend_of_lfs hb] at h
    cases b with
    | disabled =>
      cases h
      exact ⟨rfl, rfl⟩
    | program | handler => cases h

/-- Nothing else is turned away. -/
theorem turnsAway_of_refused {f : Fault} (h : entry.backend e r = .refused f) :
    ∃ name, f = .unsupported name ∧ e.TurnsAway entry name := by
  cases entry with
  | serve name =>
    cases hs : Service.ofWireName? name with
    | none =>
      rw [backend_unknown hs] at h
      cases h
      exact ⟨name, rfl, .unknown hs⟩
    | some s =>
      rw [backend_serve hs] at h
      obtain ⟨hd, hf⟩ := disabled_of_refused h
      exact ⟨name, by rw [hf, Service.wireName_of_ofWireName? hs], .disabledName hs hd⟩
  | handle s =>
    obtain ⟨hd, hf⟩ := disabled_of_refused h
    exact ⟨s.wireName, hf, .disabled hd⟩
  | runGit s =>
    cases hs : s.isProcessBacked with
    | true => simp [Entry.backend, gitBackend, hs] at h
    | false =>
      simp only [Entry.backend, gitBackend, hs] at h
      cases h
      exact ⟨s.wireName, rfl, .notGit hs⟩

/-- What is not turned away goes to a process or to a handler. -/
theorem served_of_entry (r : Request) (h : ∀ name, ¬ e.TurnsAway entry name) :
    (∃ runner launch, entry.backend e r = .process runner launch) ∨
      ∃ handler, entry.backend e r = .handler handler := by
  cases hb : entry.backend e r with
  | process runner launch => exact .inl ⟨runner, launch, rfl⟩
  | handler handler => exact .inr ⟨handler, rfl⟩
  | refused f =>
    obtain ⟨name, _, away⟩ := turnsAway_of_refused hb
    exact absurd away (h name)

/-! ## Processes -/

/-- The arguments of the process that serves a request. -/
def processArgs (s : Service) (args : List String) : List String :=
  if s.isProcessBacked then Launch.gitArgs s args else args

/-- A process is put together from the program and the context of its runner and from the
request, and nothing else. -/
structure Assembles (s : Service) (r : Request) (runner : Runner) (l : Launch) : Prop where
  program : l.program = passedText runner.program
  args : l.args = (processArgs s r.args).map passedText
  env : l.env = (Environment.ofAssignments runner.context.ambient).setAll r.env
  dir : l.dir = passedText r.dir

theorem assembles_gitBackend (h : e.gitBackend s r = .process runner launch) :
    runner = e.git ∧ Assembles s r runner launch := by
  unfold gitBackend at h
  split at h
  · rename_i hs
    cases h
    refine ⟨rfl, ?_⟩
    rw [Request.gitLaunch_eq]
    refine ⟨rfl, ?_, rfl, rfl⟩
    rw [Request.args_launch, Request.spelledOut, processArgs, if_pos hs]
  · cases h

/-- The runners of an engine: that of git, and those of external programs. -/
def Runs (e : Engine) (runner : Runner) : Prop :=
  runner = e.git ∨ ∃ s, e.lfsBackend? s = some (.program runner)

theorem assembles_backend (h : e.backend s r = .process runner launch) :
    e.Runs runner ∧ Assembles s r runner launch := by
  cases hb : e.lfsBackend? s with
  | none =>
    rw [(backend_of_git (r := r) hb).2] at h
    obtain ⟨hr, assembles⟩ := assembles_gitBackend h
    exact ⟨.inl hr, assembles⟩
  | some b =>
    rw [backend_of_lfs hb] at h
    cases b with
    | program runner =>
      cases h
      have hs : s.isProcessBacked = false := by
        cases s <;> first | rfl | cases hb
      refine ⟨.inr ⟨s, hb⟩, rfl, ?_, rfl, rfl⟩
      rw [Request.args_launch, processArgs, if_neg (by simp [hs])]
    | handler | disabled => cases h

/-- Whatever way a request comes in, its process is put together for the service that it asks
for. -/
theorem assembles_of_entry (h : entry.backend e r = .process runner launch) :
    ∃ s, entry.service? = some s ∧ e.Runs runner ∧ Assembles s r runner launch := by
  cases entry with
  | serve name =>
    cases hs : Service.ofWireName? name with
    | some s => exact ⟨s, hs, assembles_backend (by rwa [backend_serve hs] at h)⟩
    | none =>
      rw [backend_unknown hs] at h
      cases h
  | handle s => exact ⟨s, rfl, assembles_backend h⟩
  | runGit s =>
    obtain ⟨hr, assembles⟩ := assembles_gitBackend h
    exact ⟨s, rfl, .inl hr, assembles⟩

end Engine

end GitSteward
