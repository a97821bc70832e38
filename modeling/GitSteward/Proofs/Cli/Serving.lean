-- The request that the program serves. An engine made from a configuration hands it to a process,
-- or turns it away. However the session goes on, the call of the request is one that moves of its
-- own have led to, until the program reports or a signal ends it.
import GitSteward.Cli
import GitSteward.Proofs.Config.Acceptance
import GitSteward.Proofs.Host.Session
import GitSteward.Proofs.Workload.Starting

namespace GitSteward

variable {w w' : Workload} {i : Nat} {j : Job} {start c : Call} {name : String}

/-! ## Requests of a workload that goes on -/

/-- A line of the log is no part of any request. -/
theorem Workload.Follows.becomes (fresh : start.IsFresh) (h : w.Follows start i j c)
    (hb : w.Becomes w') : ∃ j' c', w'.Follows start i j' c' := by
  induction hb with
  | here => exact ⟨j, c, h⟩
  | moved _ hs ih =>
    obtain ⟨_, _, h⟩ := ih
    obtain ⟨j', c', h', _⟩ := h.step fresh hs
    exact ⟨j', c', h'⟩
  | told e _ ih =>
    obtain ⟨j', c', job, work, course, cancelled, outcome⟩ := ih
    exact ⟨j', c', job, work, course, cancelled, outcome⟩

theorem Workload.TurnedAway.becomes (h : w.TurnedAway i name j) (hb : w.Becomes w') :
    ∃ j', w'.TurnedAway i name j' := by
  induction hb with
  | here => exact ⟨j, h⟩
  | moved _ hs ih =>
    obtain ⟨_, h⟩ := ih
    exact h.step hs
  | told e _ ih =>
    obtain ⟨j', job, work, outcome⟩ := ih
    exact ⟨j', job, work, outcome⟩

/-! ## Engines of configurations -/

/-- A configuration names programs and gives no handlers. -/
theorem lfsBackend?_ofConfig (server : Environment) (c : Config) (s : Service) (h : Handler) :
    (Engine.ofConfig server c).lfsBackend? s ≠ some (.handler h) := by
  rw [ofConfig_eq]
  cases s with
  | uploadPack | uploadArchive | receivePack => exact nofun
  | lfsTransfer | lfsAuthenticate =>
    simp only [Engine.lfsBackend?]
    split <;> exact nofun

theorem not_handler_of_config (server : Environment) (c : Config) (name : String) (r : Request)
    (h : Handler) : (Entry.serve name).backend (.ofConfig server c) r ≠ .handler h := by
  intro hb
  cases hs : Service.ofWireName? name with
  | none =>
    rw [backend_unknown hs] at hb
    cases hb
  | some s =>
    rw [backend_serve hs] at hb
    cases hl : (Engine.ofConfig server c).lfsBackend? s with
    | none =>
      obtain ⟨hgit, same⟩ := Engine.backend_of_git (r := r) hl
      rw [same, Engine.gitBackend, if_pos hgit] at hb
      cases hb
    | some b =>
      rw [Engine.backend_of_lfs hl] at hb
      cases b with
      | program | disabled => cases hb
      | handler => exact lfsBackend?_ofConfig server c s _ hl

namespace Cli

variable {p : Program} {a : Arguments} {config : Config}

/-! ## The request of the program -/

/-- The one request of the program, at a process or turned away. -/
inductive Attended (p : Program) (a : Arguments) (config : Config) (w : Workload) : Prop
  | process {runner : Runner} {launch : Launch} {c : Call} {j : Job} :
      (Entry.serve a.service).backend (.ofConfig p.env config) (p.request a) =
        .process runner launch →
      w.Follows (Workload.callOf (p.request a) runner launch) 0 j c → Attended p a config w
  | refused {name : String} {j : Job} : w.TurnedAway 0 name j → Attended p a config w

theorem attended_start (p : Program) (a : Arguments) (config : Config) :
    Attended p a config (p.start a config).workload := by
  obtain ⟨w, hw, hjobs, he⟩ : ∃ w : Workload,
      (p.start a config).workload = w.arrive (.serve a.service) (p.request a) 0 ∧ w.jobs = [] ∧
        w.engine = .ofConfig p.env config := ⟨_, rfl, rfl, rfl⟩
  have first : w.jobs.length = 0 := by rw [hjobs]; rfl
  rw [hw]
  cases hb : (Entry.serve a.service).backend w.engine (p.request a) with
  | process runner launch =>
    obtain ⟨j, follows, _⟩ := Workload.follows_of_arrive 0 hb
    rw [first] at follows
    exact .process (he ▸ hb) follows
  | handler h =>
    rw [he] at hb
    exact absurd hb (not_handler_of_config _ _ _ _ h)
  | refused f =>
    obtain ⟨name, _, away⟩ := Engine.turnsAway_of_refused hb
    obtain ⟨j, away⟩ : ∃ j, (w.arrive (.serve a.service) (p.request a) 0).TurnedAway
        w.jobs.length name j := Workload.turnedAway_of_arrive away
    rw [first] at away
    exact .refused away

theorem attended_of_becomes (hb : (p.start a config).workload.Becomes w) :
    Attended p a config w := by
  cases attended_start p a config with
  | process hback follows =>
    obtain ⟨_, _, follows⟩ := follows.becomes Workload.isFresh_callOf hb
    exact .process hback follows
  | refused away =>
    obtain ⟨_, away⟩ := away.becomes hb
    exact .refused away

/-! ## The end of the program -/

/-- A program that serves is killed by a signal, or reports at the end of its session. -/
theorem serve_cases (p : Program) (dir : String) (s : Host.Session) :
    (∃ signal, (p.serve dir s).ending = .killed signal) ∨
      ∃ s' : Host.Session,
        s.workload.Becomes s'.workload ∧ p.serve dir s = Program.report dir s' := by
  unfold Program.serve
  cases p.interruption with
  | none => exact .inr ⟨_, Host.Session.becomes_settle .here, rfl⟩
  | some i =>
    dsimp only
    -- the session up to the signal
    generalize hs : (s.runUntil _).runOn i.after = paused
    have before : s.workload.Becomes paused.workload :=
      hs ▸ Host.Session.becomes_runOn (Host.Session.becomes_runFor _ _ .here) _
    split
    · exact .inr ⟨_, before, rfl⟩
    · split
      · refine .inr ⟨_, Host.Session.becomes_settle (Host.Session.becomes_step ?_ _), rfl⟩
        exact .told _ before
      · exact .inr ⟨_, Host.Session.becomes_settle before, rfl⟩
      · exact .inl ⟨_, rfl⟩

end Cli

end GitSteward
