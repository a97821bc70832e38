-- What a document says of the configuration is laid over what holds where nothing is said: a field
-- that is given has the value that is written, and any other the one it has by default.
import GitSteward.Config.Decode
import GitSteward.Proofs.Config.Entries
import GitSteward.Proofs.Environment
import Mathlib.Logic.Relation

namespace GitSteward

open Yaml

/-! ## What values stand for -/

/-- The number of 64 bits that a scalar spells. -/
def Yaml.Node.word? : Node → Option Nat
  | .scalar _ s => if s.canBe intTag then readUnsigned? maxWord s.text else none
  | _ => none

/-- The truth value that a scalar spells. -/
def Yaml.Node.bool? : Node → Option Bool
  | .scalar _ s => if s.canBe boolTag then readBool? s.text else none
  | _ => none

/-- The form of log lines that a scalar names. -/
def Yaml.Node.format? : Node → Option LogFormat
  | .scalar _ s =>
    if localName? s.tag = none then [LogFormat.json, .pretty].find? (·.name = s.text) else none
  | _ => none

/-- Whatever the name is, the value is a scalar. -/
def IsText (_ : String) (value : Node) : Prop := value.text?.isSome

/-- The assignment that an entry with two scalars makes. -/
def assignmentOf? (e : Node × Node) : Option (String × String) :=
  e.1.text?.bind fun name => e.2.text?.map fun value => (name, value)

/-- The variables that a mapping sets. -/
def Yaml.Node.variables? (node : Node) : Option Environment :=
  node.entries?.map fun es => .ofAssignments (es.filterMap assignmentOf?)

/-! ## Fields and sections -/

/-- The fields of a section. -/
def knownFields : String → List String
  | "git" => Decode.gitFields
  | "lfs" => Decode.lfsFields
  | "log" => Decode.logFields
  | _ => []

/-- Whether a value can be that of a field of a section. Anything can be that of a field that is
not known. -/
def FieldFits (heading name : String) (value : Node) : Prop :=
  match heading, name with
  | "git", "program" | "lfs", "transfer_program" | "lfs", "authenticate_program" =>
    value.text?.isSome
  | "git", "stderr_capture_limit" | "git", "timeout_secs" => value.word?.isSome
  | "git", "env" => value.IsMapOf IsText
  | "lfs", "enabled" => value.bool?.isSome
  | "log", "format" => value.format?.isSome
  | _, _ => True

/-- Whether a value can be that of a section. Anything can be that of one that is not known. -/
def SectionFits (heading : String) (value : Node) : Prop :=
  heading ∈ Decode.configFields → value.IsMapOf (FieldFits heading)

/-- The value of a field of a section. -/
def setting? (es : Entries) (heading name : String) : Option Node :=
  ((field? heading es).bind Node.entries?).bind (field? name)

/-- A section with the values that are found for its fields. -/
def GitSection.overlay (find : String → Option Node) (git : GitSection) : GitSection where
  program := ((find "program").bind Node.text?).getD git.program
  captureLimit := ((find "stderr_capture_limit").bind Node.word?).getD git.captureLimit
  timeoutSeconds := ((find "timeout_secs").bind Node.word?).getD git.timeoutSeconds
  env := ((find "env").bind Node.variables?).getD git.env

def LfsSection.overlay (find : String → Option Node) (lfs : LfsSection) : LfsSection where
  enabled := ((find "enabled").bind Node.bool?).getD lfs.enabled
  transferProgram := ((find "transfer_program").bind Node.text?).getD lfs.transferProgram
  authenticateProgram :=
    ((find "authenticate_program").bind Node.text?).getD lfs.authenticateProgram

def LogSection.overlay (find : String → Option Node) (log : LogSection) : LogSection where
  format := ((find "format").bind Node.format?).getD log.format

/-- A configuration with the values that are found for the fields of its sections. -/
def Config.overlay (find : String → String → Option Node) (config : Config) : Config where
  git := config.git.overlay (find "git")
  lfs := config.lfs.overlay (find "lfs")
  log := config.log.overlay (find "log")

/-! ## Reading values -/

namespace Decode

variable {d : Document} {path : List String} {expected name : String} {v : Node} {es : Entries}
variable {t : String}

theorem text_eq (h : v.text? = some t) : text d path expected v = .ok t := by
  cases v with
  | scalar m s => cases h; rfl
  | _ => cases h

theorem word_eq {n : Nat} (h : v.word? = some n) : word d path expected v = .ok n := by
  cases v with
  | scalar m s =>
    rw [Node.word?] at h
    simp only [word, follow, h]
  | _ => cases h

theorem bool_eq {b : Bool} (h : v.bool? = some b) : bool d path v = .ok b := by
  cases v with
  | scalar m s =>
    rw [Node.bool?] at h
    simp only [bool, follow, h]
  | _ => cases h

theorem format_eq {f : LogFormat} (h : v.format? = some f) : format d path v = .ok f := by
  cases v with
  | scalar m s =>
    rw [Node.format?] at h
    split at h
    · rename_i untagged
      have named : formatNamed s.text (some ⟨path, m⟩) = .ok f := by
        unfold formatNamed
        simp only [List.find?, LogFormat.name] at h
        grind
      simp only [format, writtenFormat, untagged, Node.mark, named]
    · cases h
  | _ => cases h

theorem entries_eq (h : v.entries? = some es) :
    ∃ mark, entries d path expected v = .ok (es, mark) := by
  cases v with
  | mapping m tag es => cases h; exact ⟨m, rfl⟩
  | _ => cases h

theorem assignments_eq (h : v.IsMapOf IsText) :
    ∃ env, v.variables? = some env ∧ ∀ d path, assignments d path v = .ok env := by
  obtain ⟨es, hes, fit⟩ := h
  refine ⟨.ofAssignments (es.filterMap assignmentOf?), by rw [Node.variables?, hes]; rfl, ?_⟩
  intro d path
  obtain ⟨mark, he⟩ := entries_eq hes
  rw [assignments, he]
  change es.foldlM _ Environment.empty = Except.ok (Environment.empty.setAll _)
  generalize Environment.empty = env
  clear he hes
  induction es generalizing env with
  | nil => rfl
  | cons e rest ih =>
    obtain ⟨key, value⟩ := e
    obtain ⟨⟨name, hk, hv, -⟩, fit⟩ := fit_cons.mp fit
    obtain ⟨t, ht⟩ := Option.isSome_iff_exists.mp hv
    have one : assignmentOf? (key, value) = some (name, t) := by rw [assignmentOf?, hk, ht]; rfl
    rw [List.filterMap_cons_some one, List.foldlM_cons]
    simp only [text_eq hk, text_eq ht]
    exact ih fit _

/-! ## Reading sections -/

/-- Only one name is found. -/
def only (name : String) (v : Node) : String → Option Node :=
  Function.update (fun _ => none) name (some v)

/-- To set fields by `set` is to lay their values over what there is. -/
structure LaysOver {α : Type} (names : List String) (fits : String → Node → Prop)
    (set : String → List String → Node → α → Decoded α)
    (lay : (String → Option Node) → α → α) : Prop where
  nothing (read : α) : lay (fun _ => none) read = read
  more {find : String → Option Node} {name : String} (v : Node) (read : α)
    (fresh : find name = none) :
    lay (Function.update find name (some v)) read = lay find (lay (only name v) read)
  known {name : String} {v : Node} (path : List String) (read : α) (mem : name ∈ names)
    (fit : fits name v) : set name path v read = .ok (lay (only name v) read)
  unknown {name : String} (v : Node) (read : α) (mem : name ∉ names) :
    lay (only name v) read = read

section LaysOver

variable {α : Type} {names : List String} {fits : String → Node → Prop}
variable {set : String → List String → Node → α → Decoded α}
variable {lay : (String → Option Node) → α → α} {place : Place} {seen : List String} {read : α}

theorem field?_cons_eq_update {e : Node × Node} (hk : e.1.text? = some name) :
    (field? · (e :: es)) = Function.update (field? · es) name (some e.2) := by
  funext other
  rw [field?, hk, Function.update_apply]
  simp [eq_comm]

/-- Fields are read one after the other, and none that is set is met again. -/
theorem LaysOver.fields (h : LaysOver names fits set lay) (fit : Fit fits es)
    (fresh : ∀ name ∈ seen, some name ∉ keys es) :
    fields d names set place es seen read = .ok (lay (field? · es) read) := by
  induction es generalizing seen read with
  | nil => exact congrArg Except.ok (h.nothing read).symm
  | cons e rest ih =>
    obtain ⟨⟨name, hk, hv, new⟩, fit⟩ := fit_cons.mp fit
    have later : ∀ other ∈ seen, some other ∉ keys rest := fun other ho hm =>
      fresh other ho (List.mem_cons_of_mem _ hm)
    rw [field?_cons_eq_update hk, h.more e.2 read (field?_eq_none new), Decode.fields, text_eq hk]
    simp only [bind, Except.bind, List.contains_eq_mem, decide_eq_true_eq]
    by_cases mem : name ∈ names
    · have unseen : name ∉ seen := fun hs => fresh name hs (by simp [keys_cons, hk])
      rw [if_pos mem, if_neg unseen, h.known _ read mem hv]
      refine ih fit fun other ho => ?_
      rcases List.mem_cons.mp ho with rfl | ho
      · exact new
      · exact later other ho
    · rw [if_neg mem, h.unknown e.2 read mem]
      exact ih fit later

theorem LaysOver.sectionOf (h : LaysOver names fits set lay) (hes : v.entries? = some es)
    (fit : Fit fits es) :
    sectionOf d expected names set path v read = .ok (lay (field? · es) read) := by
  obtain ⟨mark, he⟩ := entries_eq hes
  rw [Decode.sectionOf, he]
  exact h.fields fit nofun

end LaysOver

section Fields

variable {β : Type} {find : String → Option Node} {other : String} (f : Node → Option β) (b : β)

theorem getD_update (h : find name = none) :
    ((Function.update find name (some v) other).bind f).getD b =
      ((find other).bind f).getD (((only name v other).bind f).getD b) := by
  rw [only, Function.update_apply, Function.update_apply]
  split
  · rename_i he
    rw [he, h]
    rfl
  · rfl

theorem getD_only_of_ne (h : name ≠ other) : ((only name v other).bind f).getD b = b := by
  rw [only, Function.update_of_ne h.symm]
  rfl

theorem getD_only (h : f v = some b) (c : β) : ((only name v name).bind f).getD c = b := by
  rw [only, Function.update_self, Option.bind_some, h]
  rfl

end Fields

theorem laysOver_git : LaysOver gitFields (FieldFits "git") (setGit d) GitSection.overlay where
  nothing _ := rfl
  more v git fresh := by simp only [GitSection.overlay, getD_update _ _ fresh]
  known {name v} path git mem fit := by
    simp only [gitFields, List.mem_cons, List.not_mem_nil, or_false] at mem
    rcases mem with rfl | rfl | rfl | rfl
    · obtain ⟨t, ht⟩ := Option.isSome_iff_exists.mp fit
      simp [setGit, text_eq ht, GitSection.overlay, getD_only _ _ ht, getD_only_of_ne]
    · obtain ⟨n, hn⟩ := Option.isSome_iff_exists.mp fit
      simp [setGit, word_eq hn, GitSection.overlay, getD_only _ _ hn, getD_only_of_ne]
    · obtain ⟨n, hn⟩ := Option.isSome_iff_exists.mp fit
      simp [setGit, word_eq hn, GitSection.overlay, getD_only _ _ hn, getD_only_of_ne]
    · obtain ⟨env, he, read⟩ := assignments_eq fit
      simp [setGit, read, GitSection.overlay, getD_only _ _ he, getD_only_of_ne]
  unknown v git mem := by
    simp only [gitFields, List.mem_cons, List.not_mem_nil, or_false, not_or] at mem
    obtain ⟨h₁, h₂, h₃, h₄⟩ := mem
    simp only [GitSection.overlay, getD_only_of_ne _ _ h₁, getD_only_of_ne _ _ h₂,
      getD_only_of_ne _ _ h₃, getD_only_of_ne _ _ h₄]

theorem laysOver_lfs : LaysOver lfsFields (FieldFits "lfs") (setLfs d) LfsSection.overlay where
  nothing _ := rfl
  more v lfs fresh := by simp only [LfsSection.overlay, getD_update _ _ fresh]
  known {name v} path lfs mem fit := by
    simp only [lfsFields, List.mem_cons, List.not_mem_nil, or_false] at mem
    rcases mem with rfl | rfl | rfl
    · obtain ⟨b, hb⟩ := Option.isSome_iff_exists.mp fit
      simp [setLfs, bool_eq hb, LfsSection.overlay, getD_only _ _ hb, getD_only_of_ne]
    · obtain ⟨t, ht⟩ := Option.isSome_iff_exists.mp fit
      simp [setLfs, text_eq ht, LfsSection.overlay, getD_only _ _ ht, getD_only_of_ne]
    · obtain ⟨t, ht⟩ := Option.isSome_iff_exists.mp fit
      simp [setLfs, text_eq ht, LfsSection.overlay, getD_only _ _ ht, getD_only_of_ne]
  unknown v lfs mem := by
    simp only [lfsFields, List.mem_cons, List.not_mem_nil, or_false, not_or] at mem
    obtain ⟨h₁, h₂, h₃⟩ := mem
    simp only [LfsSection.overlay, getD_only_of_ne _ _ h₁, getD_only_of_ne _ _ h₂,
      getD_only_of_ne _ _ h₃]

theorem laysOver_log : LaysOver logFields (FieldFits "log") (setLog d) LogSection.overlay where
  nothing _ := rfl
  more v log fresh := by simp only [LogSection.overlay, getD_update _ _ fresh]
  known {name v} path log mem fit := by
    cases List.mem_singleton.mp mem
    obtain ⟨f, hf⟩ := Option.isSome_iff_exists.mp fit
    simp [setLog, format_eq hf, LogSection.overlay, getD_only _ _ hf]
  unknown v log mem := by
    simp only [LogSection.overlay, getD_only_of_ne _ _ (List.ne_of_not_mem_cons mem)]

/-! ## Reading the configuration -/

/-- A configuration with the sections that are found. In a section that is found, a field that is
not takes the value that it has by itself. -/
def sectionsOver (find : String → Option Node) (config : Config) : Config where
  git := ((find "git").bind fun v => v.entries?.map fun es =>
    GitSection.overlay (field? · es) {}).getD config.git
  lfs := ((find "lfs").bind fun v => v.entries?.map fun es =>
    LfsSection.overlay (field? · es) {}).getD config.lfs
  log := ((find "log").bind fun v => v.entries?.map fun es =>
    LogSection.overlay (field? · es) {}).getD config.log

theorem laysOver_config : LaysOver configFields SectionFits (setConfig d) sectionsOver where
  nothing _ := rfl
  more v config fresh := by simp only [sectionsOver, getD_update _ _ fresh]
  known {name v} path config mem fit := by
    -- the section is read over what its fields are by themselves, whatever `config` holds
    obtain ⟨es, hes, fit⟩ := fit mem
    simp only [configFields, List.mem_cons, List.not_mem_nil, or_false] at mem
    rcases mem with rfl | rfl | rfl
    · simp [setConfig, laysOver_git.sectionOf hes fit, sectionsOver, only, hes]
    · simp [setConfig, laysOver_lfs.sectionOf hes fit, sectionsOver, only, hes]
    · simp [setConfig, laysOver_log.sectionOf hes fit, sectionsOver, only, hes]
  unknown v config mem := by
    simp only [configFields, List.mem_cons, List.not_mem_nil, or_false, not_or] at mem
    obtain ⟨h₁, h₂, h₃⟩ := mem
    simp only [sectionsOver, getD_only_of_ne _ _ h₁, getD_only_of_ne _ _ h₂,
      getD_only_of_ne _ _ h₃]

/-- A section that is not there is one in which no field is found. -/
theorem getD_map_field? {α : Type} (lay : (String → Option Node) → α → α) {read : α}
    (nothing : lay (fun _ => none) read = read) (o : Option Entries) :
    (o.map fun es => lay (field? · es) read).getD read =
      lay (fun name => o.bind (field? name)) read := by
  cases o with
  | none => exact nothing.symm
  | some es => rfl

theorem sectionsOver_eq_overlay (es : Entries) :
    sectionsOver (field? · es) {} = Config.default.overlay (setting? es) := by
  have parts (heading : String) {α : Type} (g : Entries → α) :
      ((field? heading es).bind fun v => v.entries?.map g) =
        ((field? heading es).bind Node.entries?).map g := Option.map_bind.symm
  simp only [sectionsOver, parts]
  refine congr (congr (congrArg Config.mk ?_) ?_) ?_
  · exact getD_map_field? GitSection.overlay rfl _
  · exact getD_map_field? LfsSection.overlay rfl _
  · exact getD_map_field? LogSection.overlay rfl _

end Decode

/-- A document that is a mapping with these entries, and nothing else. -/
structure Yaml.Document.Holds (d : Document) (es : Entries) : Prop where
  root : ∃ mark tag, d.root = some (.mapping mark tag es)
  whole : d.broken = none
  single : d.more = false

theorem Config.ofDocument_eq_overlay {d : Document} {es : Entries} (h : d.Holds es)
    (fit : Fit SectionFits es) :
    Config.ofDocument d = .ok (Config.default.overlay (setting? es)) := by
  obtain ⟨⟨mark, tag, root⟩, whole, single⟩ := h
  have read : Decode.config d (.mapping mark tag es) =
      .ok (Config.default.overlay (setting? es)) := by
    rw [Decode.config, Decode.laysOver_config.sectionOf rfl fit, Decode.sectionsOver_eq_overlay]
  simp [Config.ofDocument, root, whole, single, read]

end GitSteward
