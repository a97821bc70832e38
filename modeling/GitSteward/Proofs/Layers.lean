-- The layers of the environment that the processes of an engine start from. The ambient layer is
-- what the server was found with, unless a setting has taken its place, and the extension is all
-- that was added to it since. Every process of an engine starts from the same two layers.
import GitSteward.Proofs.Routing
import Mathlib.Data.List.DropRight

namespace GitSteward

variable {ambient extension : Assignments} {x : Setting} {e : Engine} {runner : Runner}

/-! ## What settings make of the layers -/

/-- What a setting puts in the place of the ambient layer. -/
def Setting.ambient? : Setting → Option Assignments
  | .ambient assignments => some assignments
  | _ => none

/-- What a setting adds to the layers. -/
def Setting.added : Setting → Assignments
  | .extend assignments => assignments
  | _ => []

/-- The ambient layer: what the last setting of its kind says, or else the snapshot. -/
def ambientLayer (snapshot : Assignments) (settings : List Setting) : Assignments :=
  (settings.filterMap (·.ambient?)).getLast?.getD snapshot

/-- The extension: all that was added after the ambient layer was settled. -/
def extensionLayer (settings : List Setting) : Assignments :=
  (settings.rtakeWhile (·.ambient?.isNone)).flatMap (·.added)

theorem layers_of_ambient (snapshot : Assignments) (settings : List Setting)
    {assignments : Assignments} (h : x.ambient? = some assignments) :
    ambientLayer snapshot (settings ++ [x]) = assignments ∧
      extensionLayer (settings ++ [x]) = [] := by
  constructor
  · simp [ambientLayer, List.filterMap_append, h]
  · rw [extensionLayer, List.rtakeWhile_concat_neg _ _ _ (by simp [h])]
    rfl

theorem layers_of_other (snapshot : Assignments) (settings : List Setting)
    (h : x.ambient? = none) :
    ambientLayer snapshot (settings ++ [x]) = ambientLayer snapshot settings ∧
      extensionLayer (settings ++ [x]) = extensionLayer settings ++ x.added := by
  constructor
  · simp [ambientLayer, List.filterMap_append, h]
  · rw [extensionLayer, List.rtakeWhile_concat_pos _ _ _ (by simp [h])]
    simp [extensionLayer]

/-- A builder always holds its ambient layer with the extension after it. -/
theorem ambient_of_settings (b : EngineBuilder) (settings : List Setting) :
    (settings.foldl EngineBuilder.apply b).context.ambient =
      ambientLayer b.context.ambient settings ++ extensionLayer settings := by
  -- on the settings from the last one back, since that is the one that counts
  induction settings using List.reverseRecOn with
  | nil => simp [ambientLayer, extensionLayer]
  | append_singleton settings x ih =>
    rw [List.foldl_append, List.foldl_cons, List.foldl_nil]
    cases hx : x.ambient? with
    | some assignments =>
      obtain ⟨ha, he⟩ := layers_of_ambient b.context.ambient settings hx
      rw [ha, he, List.append_nil]
      cases x <;> cases hx
      rfl
    | none =>
      obtain ⟨ha, he⟩ := layers_of_other b.context.ambient settings hx
      rw [ha, he, ← List.append_assoc, ← ih]
      cases x with
      | ambient => cases hx
      | extend => rfl
      | _ => exact (List.append_nil _).symm

/-! ## Engines -/

namespace Engine

/-- The engine that settings make when the environment of the server was found to be a snapshot. -/
def ofSnapshot (snapshot : Assignments) (settings : List Setting) : Engine :=
  (settings.foldl EngineBuilder.apply { context := { ambient := snapshot } }).build

theorem ofSettings_eq (server : Environment) (settings : List Setting) :
    ofSettings server settings = ofSnapshot server.entries settings := rfl

/-- All processes of an engine are run in the context of its builder. -/
theorem context_of_runs {b : EngineBuilder} (h : b.build.Runs runner) :
    runner.context = b.context := by
  rcases h with rfl | ⟨s, h⟩
  · rfl
  · have run (program : String) (given : Option LfsHandler)
        (hb : b.backend program given = .program runner) : runner.context = b.context := by
      cases given with
      | none =>
        cases hb
        rfl
      | some handler => cases handler <;> cases hb
    cases s with
    | lfsTransfer => exact run b.transferProgram b.transfer (Option.some.inj h)
    | lfsAuthenticate => exact run b.authenticateProgram b.authenticate (Option.some.inj h)
    | uploadPack | uploadArchive | receivePack => cases h

/-- An engine, made by settings or from a configuration, with the two layers of the environment
of its processes. -/
inductive Layered : Engine → Assignments → Assignments → Prop
  | settings (snapshot : Assignments) (settings : List Setting) :
      Layered (ofSnapshot snapshot settings) (ambientLayer snapshot settings)
        (extensionLayer settings)
  | config (server : Environment) (config : Config) :
      Layered (ofConfig server config) server.entries config.git.env.entries

theorem layers_of_config (snapshot : Assignments) (config : Config) :
    ambientLayer snapshot (configSettings config) = snapshot ∧
      extensionLayer (configSettings config) = config.git.env.entries := by
  unfold configSettings ambientLayer extensionLayer
  cases config.git.timeout <;> cases config.lfs.enabled <;>
    simp [Setting.ambient?, Setting.added, List.rtakeWhile]

/-- Every process of an engine starts from the same two layers. -/
theorem Layered.starts (h : e.Layered ambient extension) (hr : e.Runs runner) :
    runner.context.ambient = ambient ++ extension := by
  cases h with
  | settings snapshot settings => rw [context_of_runs hr, ambient_of_settings]
  | config server config =>
    rw [ofConfig, ofSettings_eq] at hr
    obtain ⟨ha, he⟩ := layers_of_config server.entries config
    rw [context_of_runs hr, ambient_of_settings, ha, he]

end Engine

end GitSteward
