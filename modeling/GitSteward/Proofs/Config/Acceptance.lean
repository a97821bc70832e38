-- Which configurations are accepted. The first condition that is broken is told, and of several
-- names that no variable can have the least one. What is accepted makes an engine that can work.
import GitSteward.Config.Check
import GitSteward.Engine
import GitSteward.Proofs.Config.Silence
import GitSteward.Proofs.Text.Utf8

namespace GitSteward

open Yaml

variable {c : Config} {key other message : String} {names : List String}

/-! ## Names of variables -/

/-- What a name must be to be that of a variable. -/
def GoodKey (key : String) : Prop := key ≠ "" ∧ '=' ∉ key.toList

theorem isVariableName_iff : isVariableName key ↔ GoodKey key := by
  simp [isVariableName, GoodKey, String.contains_char_eq]

/-- The first in the order of bytes of the names that no variable can have. -/
structure IsLeastBad (names : List String) (key : String) : Prop where
  mem : key ∈ names
  bad : ¬GoodKey key
  least : ∀ other ∈ names, ¬GoodKey other → Text.utf8 key ≤ Text.utf8 other

theorem IsLeastBad.unique (h : IsLeastBad names key) (h' : IsLeastBad names other) :
    key = other := by
  refine String.le_antisymm (fun hlt => ?_) (fun hlt => ?_)
  · exact h.least other h'.mem h'.bad (Text.utf8_lt_utf8 hlt)
  · exact h'.least key h.mem h.bad (Text.utf8_lt_utf8 hlt)

/-- In sorted names the first that is bad is the least. -/
theorem isLeastBad_of_find? (sorted : names.Pairwise (· < ·))
    (h : names.find? (!isVariableName ·) = some key) : IsLeastBad names key := by
  obtain ⟨hbad, before, after, rfl, hbefore⟩ := List.find?_eq_some_iff_append.mp h
  refine ⟨by simp, by simpa [← isVariableName_iff] using hbad, fun other hmem hother => ?_⟩
  rcases List.mem_append.mp hmem with hin | hin
  · have hgood := hbefore other hin
    simp [isVariableName_iff, hother] at hgood
  · rcases List.mem_cons.mp hin with rfl | hin
    · exact List.le_refl _
    · have hlt := (List.pairwise_cons.mp (List.pairwise_append.mp sorted).2.1).1 other hin
      exact List.le_of_lt (Text.utf8_lt_utf8 hlt)

theorem find?_eq_some_iff (sorted : names.Pairwise (· < ·)) :
    names.find? (!isVariableName ·) = some key ↔ IsLeastBad names key := by
  refine ⟨isLeastBad_of_find? sorted, fun h => ?_⟩
  cases found : names.find? (!isVariableName ·) with
  | none =>
    have hgood := List.find?_eq_none.mp found key h.mem
    simp [isVariableName_iff, h.bad] at hgood
  | some other => rw [h.unique (isLeastBad_of_find? sorted found)]

/-! ## What is accepted -/

/-- A configuration that can be worked with. -/
structure Config.Sound (c : Config) : Prop where
  program : c.git.program ≠ ""
  captureLimit : 0 < c.git.captureLimit
  /-- the programs for large files are named even where these are not served -/
  transfer : c.lfs.transferProgram ≠ ""
  authenticate : c.lfs.authenticateProgram ≠ ""
  keys : ∀ key ∈ c.git.env.names, GoodKey key

/-- What is told of a configuration: the first condition that it breaks. -/
inductive FirstBroken (c : Config) : String → Prop
  | program (h : c.git.program = "") : FirstBroken c "git.program must not be empty"
  | captureLimit (program : c.git.program ≠ "") (h : c.git.captureLimit = 0) :
      FirstBroken c "git.stderr_capture_limit must be greater than zero"
  | lfsPrograms (program : c.git.program ≠ "") (captureLimit : 0 < c.git.captureLimit)
      (h : c.lfs.transferProgram = "" ∨ c.lfs.authenticateProgram = "") :
      FirstBroken c "lfs programs must not be empty"
  | key (program : c.git.program ≠ "") (captureLimit : 0 < c.git.captureLimit)
      (transfer : c.lfs.transferProgram ≠ "") (authenticate : c.lfs.authenticateProgram ≠ "")
      {key : String} (h : IsLeastBad c.git.env.names key) :
      FirstBroken c ("invalid environment key in git.env: " ++ Text.quoted key)

theorem FirstBroken.not_sound (h : FirstBroken c message) : ¬c.Sound := by
  intro sound
  cases h with
  | program h => exact sound.program h
  | captureLimit _ h => exact Nat.ne_of_gt sound.captureLimit h
  | lfsPrograms _ _ h => exact h.elim sound.transfer sound.authenticate
  | key _ _ _ _ h => exact h.bad (sound.keys _ h.mem)

theorem check_eq (c : Config) :
    c.check =
      if c.git.program = "" then .error .emptyProgram
      else if c.git.captureLimit = 0 then .error .zeroCaptureLimit
      else if c.lfs.transferProgram = "" ∨ c.lfs.authenticateProgram = "" then
        .error .emptyLfsProgram
      else
        match c.git.env.names.find? (!isVariableName ·) with
        | some key => .error (.invalidKey key)
        | none => .ok () := by
  simp only [Config.check, String.isEmpty_iff, Bool.or_eq_true]
  split_ifs <;> rfl

/-- The check accepts what is sound, and tells the first broken condition of anything else. -/
theorem check_cases (c : Config) :
    (c.check = .ok () ∧ c.Sound) ∨
      ∃ e message, c.check = .error e ∧ e.messages = [message] ∧ FirstBroken c message := by
  rw [check_eq]
  split
  · rename_i program
    exact .inr ⟨_, _, rfl, rfl, .program program⟩
  · rename_i program
    split
    · rename_i captureLimit
      exact .inr ⟨_, _, rfl, rfl, .captureLimit program captureLimit⟩
    · rename_i captureLimit
      replace captureLimit := Nat.pos_of_ne_zero captureLimit
      split
      · rename_i lfs
        exact .inr ⟨_, _, rfl, rfl, .lfsPrograms program captureLimit lfs⟩
      · rename_i lfs
        obtain ⟨transfer, authenticate⟩ := not_or.mp lfs
        split
        · rename_i key found
          have least := isLeastBad_of_find? c.git.env.sorted_names found
          exact .inr ⟨_, _, rfl, rfl, .key program captureLimit transfer authenticate least⟩
        · rename_i found
          refine .inl ⟨rfl, program, captureLimit, transfer, authenticate, fun key hkey => ?_⟩
          simpa [isVariableName_iff] using List.find?_eq_none.mp found key hkey

/-- The first broken condition is told. -/
theorem FirstBroken.check (h : FirstBroken c message) :
    ∃ e, c.check = .error e ∧ e.messages = [message] := by
  rw [check_eq]
  cases h with
  | program h => exact ⟨_, if_pos h, rfl⟩
  | captureLimit program h => exact ⟨_, by rw [if_neg program, if_pos h], rfl⟩
  | lfsPrograms program captureLimit h =>
    exact ⟨_, by rw [if_neg program, if_neg (Nat.ne_of_gt captureLimit), if_pos h], rfl⟩
  | key program captureLimit transfer authenticate h =>
    have lfs := not_or.mpr ⟨transfer, authenticate⟩
    rw [if_neg program, if_neg (Nat.ne_of_gt captureLimit), if_neg lfs,
      (find?_eq_some_iff c.git.env.sorted_names).mpr h]
    exact ⟨_, rfl, rfl⟩

theorem firstBroken_of_check {e : ConfigError} (hcheck : c.check = .error e)
    (hmessage : e.messages = [message]) : FirstBroken c message := by
  rcases check_cases c with ⟨hok, -⟩ | ⟨e', message', herror, hsame, broken⟩
  · cases hok.symm.trans hcheck
  · cases herror.symm.trans hcheck
    cases hsame.symm.trans hmessage
    exact broken

/-- Nothing but the check decides of a text that holds a configuration. -/
theorem ofText_eq {text : String} (read : Config.ofDocument (.ofText text) = .ok c) :
    Config.ofText text = c.check.map fun _ => c := by
  rw [Config.ofText, read]
  change (c.check >>= fun _ => pure c) = _
  cases c.check <;> rfl

theorem ofText_eq_ok {text : String} (read : Config.ofDocument (.ofText text) = .ok c)
    (c' : Config) : Config.ofText text = .ok c' ↔ c' = c ∧ c.Sound := by
  rw [ofText_eq read]
  rcases check_cases c with ⟨hcheck, sound⟩ | ⟨e, message, hcheck, -, broken⟩
  · simp [hcheck, Except.map, sound, eq_comm]
  · simp [hcheck, Except.map, broken.not_sound]

theorem ofText_eq_error {text : String} (read : Config.ofDocument (.ofText text) = .ok c)
    (e : ConfigError) : Config.ofText text = .error e ↔ c.check = .error e := by
  rw [ofText_eq read]
  cases c.check <;> simp [Except.map]

/-! ## What was written -/

variable {d : Document} {es inner : Entries} {v : Node}

/-- The names of variables that a document writes down. -/
def Written (es : Entries) (key : String) : Prop :=
  ∃ v inner, setting? es "git" "env" = some v ∧ v.entries? = some inner ∧
    some key ∈ Yaml.keys inner

theorem isSome_get?_variables (fit : Fit IsText inner) :
    ((Environment.ofAssignments (inner.filterMap assignmentOf?)).get? key).isSome ↔
      some key ∈ Yaml.keys inner := by
  rw [get?_variables fit]
  constructor
  · intro h
    by_contra hkey
    simp [field?_eq_none hkey] at h
  · intro h
    obtain ⟨⟨node, value⟩, hmem, hnode⟩ := List.mem_map.mp h
    have hfield := field?_of_mem fit.distinct hmem hnode
    have htext : value.text?.isSome := fit.values _ hmem key hnode
    rw [hfield, Option.bind_some]
    exact htext

/-- The variables of a configuration are those that its document writes down. -/
theorem mem_names_overlay (fit : Fit SectionFits es) :
    key ∈ (Config.default.overlay (setting? es)).git.env.names ↔ Written es key := by
  have henv : (Config.default.overlay (setting? es)).git.env =
      ((setting? es "git" "env").bind Node.variables?).getD .empty := rfl
  rw [henv, Environment.mem_names, Written]
  cases hv : setting? es "git" "env" with
  | none => simp [Environment.get?, Environment.empty]
  | some v =>
    obtain ⟨inner, hinner, inside⟩ : v.IsMapOf IsText := fieldFits_setting? fit (by decide) _ hv
    simp [Node.variables?, hinner, isSome_get?_variables inside]

/-- Documents with the same entries in another order are read as the same configuration. -/
theorem ofDocument_reordered {d' : Document} {es' : Entries} (holds : d.Holds es)
    (holds' : d'.Holds es') (fit : Fit SectionFits es) (h : Reordered es es') :
    Config.ofDocument d' = Config.ofDocument d := by
  have silent : Silent es es' := .order h
  rw [Config.ofDocument_eq_overlay holds fit,
    Config.ofDocument_eq_overlay holds' (silent.fit.mp fit), silent.overlay fit]

/-! ## The engine -/

/-- The engine of a configuration, part by part. -/
theorem ofConfig_eq (server : Environment) (c : Config) :
    Engine.ofConfig server c =
      let context : ProcessContext :=
        { ambient := server.entries ++ c.git.env.entries, captureLimit := c.git.captureLimit }
      { git := ⟨c.git.program, context⟩
        transfer := if c.lfs.enabled then .program ⟨c.lfs.transferProgram, context⟩ else .disabled
        authenticate :=
          if c.lfs.enabled then .program ⟨c.lfs.authenticateProgram, context⟩ else .disabled
        registry := none
        timeout := c.git.timeout.map (· * 1_000_000_000) } := by
  unfold Engine.ofConfig Engine.configSettings Engine.ofSettings
  cases c.git.timeout <;> cases c.lfs.enabled <;> rfl

/-- An engine that can work, made from a configuration. -/
structure SoundEngine (server : Environment) (c : Config) (e : Engine) : Prop where
  program : e.git.program ≠ ""
  captureLimit : 0 < e.git.context.captureLimit
  /-- what is configured is added to the environment of the server -/
  ambient : ∃ configured, e.git.context.ambient = server.entries ++ configured ∧
    (∀ name value, (name, value) ∈ configured ↔ c.git.env.get? name = some value) ∧
    ∀ assignment ∈ configured, GoodKey assignment.1
  /-- programs that are run for large files are named, and are run in the same way -/
  lfs : ∀ runner, e.transfer = .program runner ∨ e.authenticate = .program runner →
    runner.program ≠ "" ∧ runner.context = e.git.context
  /-- there is a deadline just when one is configured -/
  timeout : e.timeout =
    if 0 < c.git.timeoutSeconds then some (c.git.timeoutSeconds * 1_000_000_000) else none

theorem Config.Sound.engine (sound : c.Sound) (server : Environment) :
    SoundEngine server c (.ofConfig server c) := by
  rw [ofConfig_eq]
  refine ⟨sound.program, sound.captureLimit, ⟨c.git.env.entries, rfl, fun name value => ?_,
    fun assignment hmem => sound.keys _ (List.mem_map_of_mem hmem)⟩, fun runner h => ?_, ?_⟩
  · exact Environment.mem_entries
  · dsimp only at h
    split at h
    · rcases h with h | h <;> cases h
      · exact ⟨sound.transfer, rfl⟩
      · exact ⟨sound.authenticate, rfl⟩
    · rcases h with h | h <;> cases h
  · rcases Nat.eq_zero_or_pos c.git.timeoutSeconds with h | h
    · simp [GitSection.timeout, h]
    · simp [GitSection.timeout, h, Nat.ne_of_gt h]

/-! ## The law -/

/-- How a text is judged that holds a configuration. -/
structure Judged (text : String) (c : Config) : Prop where
  /-- it is accepted just when it is sound, -/
  accepted : Config.ofText text = .ok c ↔ c.Sound
  /-- and is returned as it was read -/
  unchanged : ∀ c', Config.ofText text = .ok c' → c' = c
  /-- else the first condition that it breaks is told -/
  told : ∀ message, FirstBroken c message ↔
    ∃ e, Config.ofText text = .error e ∧ e.messages = [message]
  /-- which there is -/
  broken : ¬c.Sound → ∃ message, FirstBroken c message
  /-- the names of variables are those that are written -/
  written : ∀ es, (Document.ofText text).Holds es → Fit SectionFits es →
    ∀ key, key ∈ c.git.env.names ↔ Written es key
  /-- and neither their order nor any other counts -/
  order : ∀ text' es es', (Document.ofText text).Holds es → (Document.ofText text').Holds es' →
    Fit SectionFits es → Reordered es es' → Config.ofText text' = Config.ofText text
  /-- what is accepted makes an engine that can work -/
  engine : ∀ c', Config.ofText text = .ok c' → ∀ server,
    SoundEngine server c' (.ofConfig server c')

/-- A configuration is accepted just when all conditions are fulfilled, and else the first that is
not is told. -/
theorem configurations_are_judged {text : String}
    (read : Config.ofDocument (.ofText text) = .ok c) : Judged text c := by
  refine
    { accepted := by simp [ofText_eq_ok read]
      unchanged := fun c' h => ((ofText_eq_ok read c').mp h).1
      told := ?_
      broken := ?_
      written := ?_
      order := fun text' es es' holds holds' fit h => ?_
      engine := ?_ }
  · intro message
    simp only [ofText_eq_error read]
    exact ⟨FirstBroken.check, fun ⟨e, hcheck, hmessage⟩ => firstBroken_of_check hcheck hmessage⟩
  · intro unsound
    rcases check_cases c with ⟨-, sound⟩ | ⟨e, message, -, -, broken⟩
    · exact absurd sound unsound
    · exact ⟨message, broken⟩
  · intro es holds fit key
    have hsame := read.symm.trans (Config.ofDocument_eq_overlay holds fit)
    cases hsame
    exact mem_names_overlay fit
  · rw [Config.ofText, Config.ofText, ofDocument_reordered holds holds' fit h]
  · intro c' h server
    obtain ⟨rfl, sound⟩ := (ofText_eq_ok read c').mp h
    exact sound.engine server

/-- Of two names that are bad, the larger one is written first. -/
theorem the_least_bad_name_is_told :
    ∃ e, Config.ofText
        "git:\n  env: {z=: last, b=c: x, a: y}\nlfs:\n  enabled: false\n" = .error e ∧
      e.messages = ["invalid environment key in git.env: \"b=c\""] := by
  have read : Config.ofDocument
      (.ofText "git:\n  env: {z=: last, b=c: x, a: y}\nlfs:\n  enabled: false\n") = .ok
        { Config.default with
          git := { env := .ofAssignments [("z=", "last"), ("b=c", "x"), ("a", "y")] }
          lfs := { enabled := false } } := by rfl
  have found : ["a", "b=c", "z="].find? (!isVariableName ·) = some "b=c" := by
    simp [isVariableName, String.contains_char_eq]
  have least : IsLeastBad ["a", "b=c", "z="] "b=c" := (find?_eq_some_iff (by decide)).mp found
  have message : "invalid environment key in git.env: \"b=c\"" =
      "invalid environment key in git.env: " ++ Text.quoted "b=c" := by rfl
  rw [message]
  refine ((configurations_are_judged read).told _).mp ?_
  exact .key (by decide) (by decide) (by decide) (by decide) least

end GitSteward
