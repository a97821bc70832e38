-- What the settings of an engine come to. Each bears on a subject, or on two. Of the settings that
-- bear on a subject the last one counts, except that some only add to the environment. So their
-- order makes no difference, but among settings that bear on the same subject.
import GitSteward.Proofs.Layers

namespace GitSteward

variable {α β : Type} {settings others : List Setting} {value? : Setting → Option α}
variable {x : Setting}

/-! ## The last setting of a kind -/

/-- The last value that settings give. -/
def lastGiven (value? : Setting → Option α) (settings : List Setting) : Option α :=
  (settings.filterMap value?).getLast?

theorem lastGiven_concat (value? : Setting → Option α) (settings : List Setting) (x : Setting) :
    lastGiven value? (settings ++ [x]) = (value? x).or (lastGiven value? settings) := by
  unfold lastGiven
  cases hx : value? x <;> simp [List.filterMap_append, hx]

theorem lastGiven_map (f : α → β) :
    lastGiven (fun x => (value? x).map f) settings = (lastGiven value? settings).map f := by
  simp only [lastGiven, List.getLast?_map, ← List.map_filterMap]

/-- A part of a builder that a setting replaces or leaves as it is comes from the last setting that
replaces it. -/
theorem foldl_apply_eq_lastGiven (part : EngineBuilder → α) (value? : Setting → Option α)
    (replaces : ∀ b x, part (b.apply x) = (value? x).getD (part b)) (b : EngineBuilder)
    (settings : List Setting) :
    part (settings.foldl EngineBuilder.apply b) = (lastGiven value? settings).getD (part b) := by
  induction settings using List.reverseRecOn with
  | nil => rfl
  | append_singleton settings x ih =>
    rw [List.foldl_append, List.foldl_cons, List.foldl_nil, replaces, ih, lastGiven_concat]
    cases value? x <;> rfl

/-! ## What the settings of each kind give -/

/-- What is to serve a large file service. -/
inductive LfsSlot where
  | program (program : String)
  | handler (handler : Handler)
  | disabled

/-- A program is run in the context that the engine has in the end. -/
def LfsSlot.within (context : ProcessContext) : LfsSlot → LfsBackend
  | .program p => .program ⟨p, context⟩
  | .handler h => .handler h
  | .disabled => .disabled

namespace Setting

def gitProgram? : Setting → Option String
  | .gitProgram program => some program
  | _ => none

def faults? : Setting → Option FaultSink
  | .faults sink => some sink
  | _ => none

def captureLimit? : Setting → Option Nat
  | .captureLimit limit => some limit
  | _ => none

def registry? : Setting → Option Nat
  | .metrics registry => some registry
  | _ => none

def timeout? : Setting → Option Nat
  | .timeout nanoseconds => some nanoseconds
  | _ => none

/-- What a setting makes of a large file service. One setting names a program for each of the two,
and one disables both. -/
def slot? : Service → Setting → Option LfsSlot
  | .lfsTransfer, .transfer handler | .lfsAuthenticate, .authenticate handler =>
    some (.handler handler)
  | .lfsTransfer, .lfsPrograms program _ | .lfsAuthenticate, .lfsPrograms _ program =>
    some (.program program)
  | .lfsTransfer, .disableLfs | .lfsAuthenticate, .disableLfs => some .disabled
  | _, _ => none

end Setting

/-! ## The engine that settings describe -/

/-- What is to serve a large file service by settings: what the last of those says that say
anything of it, or else the program that has the name of the service. -/
def slotOf (s : Service) (settings : List Setting) : LfsSlot :=
  (lastGiven (Setting.slot? s) settings).getD (.program s.wireName)

/-- The context in which all processes are run by settings. -/
def contextOf (snapshot : Assignments) (settings : List Setting) : ProcessContext where
  ambient := ambientLayer snapshot settings ++ extensionLayer settings
  faults := (lastGiven Setting.faults? settings).getD .logged
  captureLimit := (lastGiven Setting.captureLimit? settings).getD defaultCaptureLimit

/-- The engine that settings describe, each part of it by itself. -/
def Engine.described (snapshot : Assignments) (settings : List Setting) : Engine where
  git := ⟨(lastGiven Setting.gitProgram? settings).getD "git", contextOf snapshot settings⟩
  transfer := (slotOf .lfsTransfer settings).within (contextOf snapshot settings)
  authenticate := (slotOf .lfsAuthenticate settings).within (contextOf snapshot settings)
  registry := lastGiven Setting.registry? settings
  timeout := lastGiven Setting.timeout? settings

namespace EngineBuilder

/-- What is to serve a large file service: a program, unless something was put in its place. -/
def slot (program : String) : Option LfsHandler → LfsSlot
  | none => .program program
  | some (.given handler) => .handler handler
  | some .disabled => .disabled

theorem backend_eq (b : EngineBuilder) (program : String) (inPlace : Option LfsHandler) :
    b.backend program inPlace = (slot program inPlace).within b.context := by
  cases inPlace with
  | none => rfl
  | some handler => cases handler <;> rfl

/-- A setting that names a program also takes away what was put in its place. -/
theorem slot_transfer_apply (b : EngineBuilder) (x : Setting) :
    slot (b.apply x).transferProgram (b.apply x).transfer =
      (x.slot? .lfsTransfer).getD (slot b.transferProgram b.transfer) := by
  cases x <;> rfl

theorem slot_authenticate_apply (b : EngineBuilder) (x : Setting) :
    slot (b.apply x).authenticateProgram (b.apply x).authenticate =
      (x.slot? .lfsAuthenticate).getD (slot b.authenticateProgram b.authenticate) := by
  cases x <;> rfl

/-- A part that need not be set holds what the last setting of its kind gives. -/
theorem optional_eq_lastGiven {part : EngineBuilder → Option α} {value? : Setting → Option α}
    (replaces : ∀ b x, part (b.apply x) = ((value? x).map some).getD (part b))
    {b : EngineBuilder} (unset : part b = none) (settings : List Setting) :
    part (settings.foldl apply b) = lastGiven value? settings := by
  rw [foldl_apply_eq_lastGiven _ _ replaces, lastGiven_map, unset]
  cases lastGiven value? settings <;> rfl

theorem context_of_settings (snapshot : Assignments) (settings : List Setting) :
    (settings.foldl apply { context := { ambient := snapshot } }).context =
      contextOf snapshot settings := by
  have same {c c' : ProcessContext} (ha : c.ambient = c'.ambient) (hf : c.faults = c'.faults)
      (hl : c.captureLimit = c'.captureLimit) : c = c' := by
    cases c
    cases c'
    cases ha
    cases hf
    cases hl
    rfl
  refine same (ambient_of_settings _ settings) ?_ ?_
  · exact foldl_apply_eq_lastGiven (·.context.faults) Setting.faults?
      (fun b x => by cases x <;> rfl) _ settings
  · exact foldl_apply_eq_lastGiven (·.context.captureLimit) Setting.captureLimit?
      (fun b x => by cases x <;> rfl) _ settings

end EngineBuilder

/-- Settings make the engine that they describe. -/
theorem ofSnapshot_eq_described (snapshot : Assignments) (settings : List Setting) :
    Engine.ofSnapshot snapshot settings = Engine.described snapshot settings := by
  let start : EngineBuilder := { context := { ambient := snapshot } }
  have program : (settings.foldl EngineBuilder.apply start).program =
      (lastGiven Setting.gitProgram? settings).getD "git" :=
    foldl_apply_eq_lastGiven (·.program) _ (fun b x => by cases x <;> rfl) start settings
  have transfer := foldl_apply_eq_lastGiven
    (fun b => EngineBuilder.slot b.transferProgram b.transfer) _
    EngineBuilder.slot_transfer_apply start settings
  have authenticate := foldl_apply_eq_lastGiven
    (fun b => EngineBuilder.slot b.authenticateProgram b.authenticate) _
    EngineBuilder.slot_authenticate_apply start settings
  have registry : (settings.foldl EngineBuilder.apply start).registry =
      lastGiven Setting.registry? settings :=
    EngineBuilder.optional_eq_lastGiven (fun b x => by cases x <;> rfl) rfl settings
  have timeout : (settings.foldl EngineBuilder.apply start).timeout =
      lastGiven Setting.timeout? settings :=
    EngineBuilder.optional_eq_lastGiven (fun b x => by cases x <;> rfl) rfl settings
  have context := EngineBuilder.context_of_settings snapshot settings
  unfold Engine.ofSnapshot EngineBuilder.build
  rw [EngineBuilder.backend_eq, EngineBuilder.backend_eq, transfer, authenticate, program, registry,
    timeout, context]
  rfl

/-! ## Subjects -/

/-- What settings bear on. -/
inductive Subject where
  | gitProgram
  | environment
  | faults
  | captureLimit
  | registry
  | timeout
  | transfer
  | authenticate
deriving DecidableEq

def Setting.bearsOn : Setting → List Subject
  | .gitProgram _ => [.gitProgram]
  | .ambient _ | .extend _ => [.environment]
  | .faults _ => [.faults]
  | .captureLimit _ => [.captureLimit]
  | .metrics _ => [.registry]
  | .timeout _ => [.timeout]
  | .transfer _ => [.transfer]
  | .authenticate _ => [.authenticate]
  | .lfsPrograms .. | .disableLfs => [.transfer, .authenticate]

/-- The settings that bear on a subject, in their order. -/
def settingsOn (subject : Subject) (settings : List Setting) : List Setting :=
  settings.filter (subject ∈ ·.bearsOn)

/-- Settings that are the same, and come in the same order, as far as any one subject goes. -/
def SameBySubject (settings others : List Setting) : Prop :=
  ∀ subject, settingsOn subject settings = settingsOn subject others

namespace Setting

/-! A setting gives no value of a kind that it does not bear on. -/

theorem gitProgram?_eq_none (x : Setting) (h : .gitProgram ∉ x.bearsOn) : x.gitProgram? = none := by
  cases x with
  | gitProgram => simp [bearsOn] at h
  | _ => rfl

theorem ambient?_eq_none (x : Setting) (h : .environment ∉ x.bearsOn) : x.ambient? = none := by
  cases x with
  | ambient => simp [bearsOn] at h
  | _ => rfl

theorem added_eq_nil (x : Setting) (h : .environment ∉ x.bearsOn) : x.added = [] := by
  cases x with
  | extend => simp [bearsOn] at h
  | _ => rfl

theorem faults?_eq_none (x : Setting) (h : .faults ∉ x.bearsOn) : x.faults? = none := by
  cases x with
  | faults => simp [bearsOn] at h
  | _ => rfl

theorem captureLimit?_eq_none (x : Setting) (h : .captureLimit ∉ x.bearsOn) :
    x.captureLimit? = none := by
  cases x with
  | captureLimit => simp [bearsOn] at h
  | _ => rfl

theorem registry?_eq_none (x : Setting) (h : .registry ∉ x.bearsOn) : x.registry? = none := by
  cases x with
  | metrics => simp [bearsOn] at h
  | _ => rfl

theorem timeout?_eq_none (x : Setting) (h : .timeout ∉ x.bearsOn) : x.timeout? = none := by
  cases x with
  | timeout => simp [bearsOn] at h
  | _ => rfl

theorem slot?_transfer_eq_none (x : Setting) (h : .transfer ∉ x.bearsOn) :
    x.slot? .lfsTransfer = none := by
  cases x with
  | transfer | lfsPrograms | disableLfs => simp [bearsOn] at h
  | _ => rfl

theorem slot?_authenticate_eq_none (x : Setting) (h : .authenticate ∉ x.bearsOn) :
    x.slot? .lfsAuthenticate = none := by
  cases x with
  | authenticate | lfsPrograms | disableLfs => simp [bearsOn] at h
  | _ => rfl

end Setting

/-- A value that only settings on a subject give comes from these settings alone. -/
theorem lastGiven_settingsOn {subject : Subject}
    (only : ∀ x : Setting, subject ∉ x.bearsOn → value? x = none) (settings : List Setting) :
    lastGiven value? (settingsOn subject settings) = lastGiven value? settings := by
  have same : (fun x => if subject ∈ x.bearsOn then value? x else none) = value? := by
    funext x
    split
    · rfl
    · rename_i hx
      exact (only x hx).symm
  simp only [lastGiven, settingsOn, List.filterMap_filter, decide_eq_true_eq, same]

theorem SameBySubject.lastGiven (h : SameBySubject settings others) {subject : Subject}
    (only : ∀ x : Setting, subject ∉ x.bearsOn → value? x = none) :
    lastGiven value? settings = lastGiven value? others := by
  rw [← lastGiven_settingsOn only settings, h subject, lastGiven_settingsOn only others]

theorem extensionLayer_settingsOn (settings : List Setting) :
    extensionLayer (settingsOn .environment settings) = extensionLayer settings := by
  induction settings using List.reverseRecOn with
  | nil => rfl
  | append_singleton settings x ih =>
    by_cases hx : .environment ∈ x.bearsOn
    · have kept : settingsOn .environment (settings ++ [x]) =
          settingsOn .environment settings ++ [x] := by simp [settingsOn, hx]
      rw [kept]
      cases ha : x.ambient? with
      | some assignments => rw [(layers_of_ambient [] _ ha).2, (layers_of_ambient [] _ ha).2]
      | none => rw [(layers_of_other [] _ ha).2, (layers_of_other [] _ ha).2, ih]
    · have left : settingsOn .environment (settings ++ [x]) =
          settingsOn .environment settings := by simp [settingsOn, hx]
      rw [left, ih, (layers_of_other [] _ (x.ambient?_eq_none hx)).2, x.added_eq_nil hx,
        List.append_nil]

/-- Settings that are the same by subject describe the same engine. -/
theorem SameBySubject.described (h : SameBySubject settings others) (snapshot : Assignments) :
    Engine.described snapshot settings = Engine.described snapshot others := by
  have ambient : ambientLayer snapshot settings = ambientLayer snapshot others :=
    congrArg (Option.getD · snapshot) (h.lastGiven Setting.ambient?_eq_none)
  have extension : extensionLayer settings = extensionLayer others := by
    rw [← extensionLayer_settingsOn settings, h .environment, extensionLayer_settingsOn]
  have context : contextOf snapshot settings = contextOf snapshot others := by
    unfold contextOf
    rw [ambient, extension, h.lastGiven Setting.faults?_eq_none,
      h.lastGiven Setting.captureLimit?_eq_none]
  unfold Engine.described slotOf
  rw [context, h.lastGiven Setting.gitProgram?_eq_none,
    h.lastGiven Setting.slot?_transfer_eq_none, h.lastGiven Setting.slot?_authenticate_eq_none,
    h.lastGiven Setting.registry?_eq_none, h.lastGiven Setting.timeout?_eq_none]

/-! ## The law -/

/-- What settings come to in an engine. -/
structure SettledBy (snapshot : Assignments) (settings : List Setting) (e : Engine) : Prop where
  described : e = .described snapshot settings
  /-- git and the external programs are run in one context, however late its settings come -/
  context : ∀ runner, e.Runs runner → runner.context = contextOf snapshot settings
  /-- a service that is disabled is turned away by its own name -/
  disabled : ∀ s r, e.lfsBackend? s = some .disabled →
    e.backend s r = .refused (.unsupported s.wireName)
  /-- nothing but the order of the settings on each subject matters -/
  order : ∀ others, SameBySubject settings others → Engine.ofSnapshot snapshot others = e

/-- An engine is what its last settings say, each on its own subject: whatever settings there are,
how many and in which order, the engine that they make can be read off them part by part. -/
theorem the_last_settings_decide (snapshot : Assignments) (settings : List Setting) :
    SettledBy snapshot settings (.ofSnapshot snapshot settings) := by
  refine ⟨ofSnapshot_eq_described snapshot settings, ?_, ?_, ?_⟩
  · intro runner runs
    rw [Engine.context_of_runs runs, EngineBuilder.context_of_settings]
  · intro s r hd
    rw [Engine.backend_of_lfs hd]
    rfl
  · intro others same
    rw [ofSnapshot_eq_described, ofSnapshot_eq_described, same.described]

/-- Settings on both large file services, on one of them, and on what is common to all. -/
def mixedSettings : List Setting := [
  .disableLfs, .captureLimit 9, .transfer { name := "fetch" }, .extend [("A", "1")], .metrics 1,
  .lfsPrograms "transfer" "authenticate", .ambient [("B", "2")], .authenticate { name := "login" },
  .captureLimit 4, .extend [("C", "3")], .metrics 2]

/-- The same settings by subject, with those on the large file services first. -/
def sortedSettings : List Setting := [
  .disableLfs, .transfer { name := "fetch" }, .lfsPrograms "transfer" "authenticate",
  .authenticate { name := "login" }, .extend [("A", "1")], .ambient [("B", "2")],
  .extend [("C", "3")], .captureLimit 9, .captureLimit 4, .metrics 1, .metrics 2]

/-- The program for transfers is run in a context that was settled after it. -/
theorem settings_on_other_subjects_may_come_between :
    SameBySubject mixedSettings sortedSettings ∧
      Engine.ofSnapshot [] sortedSettings = Engine.ofSnapshot [] mixedSettings ∧
      (Engine.ofSnapshot [] sortedSettings).transfer = .program ⟨"transfer",
        { ambient := [("B", "2"), ("C", "3")], faults := .logged, captureLimit := 4 }⟩ := by
  have same : SameBySubject mixedSettings sortedSettings := by
    intro subject
    cases subject <;> rfl
  exact ⟨same, (the_last_settings_decide [] mixedSettings).order sortedSettings same, rfl⟩

end GitSteward
