-- What changes nothing of the configuration that a document gives: another order, fields that are
-- not known, and sections that say nothing.
import GitSteward.Proofs.Config.Overlay
import GitSteward.Proofs.Yaml.Scalar

namespace GitSteward

open Yaml

variable {es es' inner inner' : Entries} {v v' : Node} {heading name : String}
variable {find find' : String → String → Option Node} {config : Config}

/-- A change of a document's entries that says nothing of the configuration. -/
inductive Silent : Entries → Entries → Prop
  /-- entries in another order, at any level -/
  | order {es es' : Entries} (h : Reordered es es') : Silent es es'
  /-- one more section, which is not known, whatever it holds -/
  | unknown {es es' : Entries} (h : Adds Decode.configFields es es') : Silent es es'
  /-- one more field in a section, which is not known, whatever it holds -/
  | inside (es es' : Entries) {inner inner' : Entries} {key : Node} {heading : String}
      (mark : Mark) (tag : Option TagBytes) (hk : key.text? = some heading)
      (h : Adds (knownFields heading) inner inner') :
      Silent (es ++ (key, .mapping mark tag inner) :: es')
        (es ++ (key, .mapping mark tag inner') :: es')
  /-- one more section that was not there, without known fields -/
  | unsaid (es es' : Entries) {inner : Entries} {key : Node} {heading : String}
      (mark : Mark) (tag : Option TagBytes) (hk : key.text? = some heading)
      (fresh : some heading ∉ keys (es ++ es'))
      (fit : Fit (fun name _ => name ∉ knownFields heading) inner) :
      Silent (es ++ es') (es ++ (key, .mapping mark tag inner) :: es')

/-! ## Values in another order -/

theorem Yaml.Alike.word? (h : Alike v v') : v.word? = v'.word? := by cases h <;> rfl

theorem Yaml.Alike.bool? (h : Alike v v') : v.bool? = v'.bool? := by cases h <;> rfl

theorem Yaml.Alike.format? (h : Alike v v') : v.format? = v'.format? := by cases h <;> rfl

theorem Yaml.Alike.isText (name : String) (v v' : Node) (h : Alike v v') :
    IsText name v ↔ IsText name v' := by rw [IsText, IsText, h.text?]

theorem fieldFits_alike (heading name : String) (v v' : Node) (h : Alike v v') :
    FieldFits heading name v ↔ FieldFits heading name v' := by
  unfold FieldFits
  split <;> simp only [h.text?, h.word?, h.bool?, h.format?, h.isMapOf Alike.isText]

theorem sectionFits_alike (heading : String) (v v' : Node) (h : Alike v v') :
    SectionFits heading v ↔ SectionFits heading v' := by
  rw [SectionFits, SectionFits, h.isMapOf (fieldFits_alike heading)]

/-- A mapping of texts sets each of its keys to its value. -/
theorem get?_variables (fit : Fit IsText es) :
    (Environment.ofAssignments (es.filterMap assignmentOf?)).get? name =
      (field? name es).bind Node.text? := by
  rw [Environment.get?_ofAssignments, assign_apply, Option.or_none]
  induction es with
  | nil => rfl
  | cons e rest ih =>
    obtain ⟨⟨other, hk, hv, fresh⟩, fit⟩ := fit_cons.mp fit
    obtain ⟨t, ht⟩ := Option.isSome_iff_exists.mp hv
    have one : assignmentOf? e = some (other, t) := by rw [assignmentOf?, hk, ht]; rfl
    rw [List.filterMap_cons_some one, lastOf_cons, ih fit, field?, hk]
    by_cases same : name = other
    · subst same
      rw [field?_eq_none fresh, if_pos rfl, if_pos rfl]
      exact ht.symm
    · rw [if_neg same, if_neg (fun h => same (Option.some.inj h).symm), Option.or_none]

theorem bind_of_rel {β : Type} {R : Node → Node → Prop} {a b : Option Node} {f : Node → Option β}
    (h : Option.Rel R a b) (same : ∀ v v', a = some v → R v v' → f v = f v') :
    a.bind f = b.bind f := by
  cases h with
  | none => rfl
  | some h => exact same _ _ rfl h

theorem Yaml.Alike.variables? (h : Alike v v') (fit : v.IsMapOf IsText) :
    v.variables? = v'.variables? := by
  cases h with
  | scalar | sequence => rfl
  | mapping m m' tag perm h =>
    obtain ⟨es, hes, fit⟩ := fit
    cases hes
    have re : Reordered _ _ := ⟨_, perm, h⟩
    have fit' := (re.fit Alike.isText).mp fit
    refine congrArg some (Environment.eq_of_get? fun name => ?_)
    rw [get?_variables fit, get?_variables fit']
    exact bind_of_rel (re.field? fit.distinct name) fun _ _ _ h => h.text?

/-! ## What counts of a document -/

/-- Nothing counts but the fields that are known. -/
theorem overlay_congr
    (h : ∀ heading ∈ Decode.configFields, ∀ name ∈ knownFields heading,
      find heading name = find' heading name) : config.overlay find = config.overlay find' := by
  simp only [Decode.configFields, knownFields, Decode.gitFields, Decode.lfsFields,
    Decode.logFields, List.forall_mem_cons, List.not_mem_nil, false_implies, implies_true,
    and_true] at h
  simp only [Config.overlay, GitSection.overlay, LfsSection.overlay, LogSection.overlay, h]

/-- The order of what is found does not count. -/
theorem overlay_alike
    (h : ∀ heading ∈ Decode.configFields, ∀ name,
      Option.Rel Alike (find heading name) (find' heading name))
    (env : ∀ v, find "git" "env" = some v → v.IsMapOf IsText) :
    config.overlay find = config.overlay find' := by
  simp only [Decode.configFields, List.forall_mem_cons, List.not_mem_nil, false_implies,
    implies_true, and_true] at h
  obtain ⟨git, lfs, log⟩ := h
  have same := bind_of_rel (git "env") fun v _ hv h => h.variables? (env v hv)
  simp only [Config.overlay, GitSection.overlay, LfsSection.overlay, LogSection.overlay, same,
    bind_of_rel (git _) fun _ _ _ => Alike.text?, bind_of_rel (git _) fun _ _ _ => Alike.word?,
    bind_of_rel (lfs _) fun _ _ _ => Alike.bool?, bind_of_rel (lfs _) fun _ _ _ => Alike.text?,
    bind_of_rel (log _) fun _ _ _ => Alike.format?]

theorem fieldFits_of_unknown (h : name ∉ knownFields heading) (v : Node) :
    FieldFits heading name v := by
  unfold FieldFits
  split <;> trivial

/-! ## Silent changes -/

theorem fieldFits_setting? (fit : Fit SectionFits es) (mem : heading ∈ Decode.configFields)
    (name : String) (h : setting? es heading name = some v) : FieldFits heading name v := by
  obtain ⟨inner, hin, hv⟩ := Option.bind_eq_some_iff.mp h
  obtain ⟨value, hvalue, hin⟩ := Option.bind_eq_some_iff.mp hin
  obtain ⟨same, hsame, fit⟩ := fit.field? hvalue mem
  cases hin.symm.trans hsame
  exact fit.field? hv

theorem setting?_reordered (h : Reordered es es') (fit : Fit SectionFits es)
    (mem : heading ∈ Decode.configFields) (name : String) :
    Option.Rel Alike (setting? es heading name) (setting? es' heading name) := by
  have found := h.field? fit.distinct heading
  unfold setting?
  generalize hv : field? heading es = a at found ⊢
  generalize field? heading es' = b at found ⊢
  cases found with
  | none => exact .none
  | @some v v' alike =>
    obtain ⟨inner, hin, fit⟩ := fit.field? hv mem
    have both := alike.entries?
    rw [Option.bind_some, Option.bind_some]
    rw [hin] at both ⊢
    generalize v'.entries? = c at both ⊢
    cases both with
    | some re => exact re.field? fit.distinct name

theorem setting?_inside {key : Node} (mark : Mark) (tag : Option TagBytes)
    (same : key.text? = some heading → field? name inner = field? name inner') :
    setting? (es ++ (key, .mapping mark tag inner) :: es') heading name =
      setting? (es ++ (key, .mapping mark tag inner') :: es') heading name := by
  unfold setting?
  rw [field?_append, field?_append]
  cases field? heading es with
  | some v => rfl
  | none =>
    rw [Option.none_or, Option.none_or, field?, field?]
    split
    · rename_i hk
      exact same hk
    · rfl

theorem setting?_unsaid {key : Node} (mark : Mark) (tag : Option TagBytes)
    (hk : key.text? = some heading) (fresh : some heading ∉ keys (es ++ es'))
    (fit : Fit (fun name _ => name ∉ knownFields heading) inner) {other : String}
    (known : name ∈ knownFields other) :
    setting? (es ++ es') other name =
      setting? (es ++ (key, .mapping mark tag inner) :: es') other name := by
  by_cases here : heading = other
  · -- there was no section of that name, and in the one that came no known field is found
    subst here
    have missing : field? name inner = none := fit.field?_eq_none fun _ h => h known
    rw [keys_append, List.mem_append, not_or] at fresh
    rw [setting?, setting?, field?_append, field?_append, field?_eq_none fresh.1,
      field?_eq_none fresh.2, Option.none_or, Option.none_or, field?, if_pos hk]
    exact missing.symm
  · rw [setting?, setting?, field?_insert fun h => here (Option.some.inj (hk.symm.trans h))]

theorem sectionFits_mapping (mark : Mark) (tag : Option TagBytes)
    (same : Fit (FieldFits heading) inner ↔ Fit (FieldFits heading) inner') :
    SectionFits heading (.mapping mark tag inner) ↔
      SectionFits heading (.mapping mark tag inner') := by
  simp [SectionFits, Node.IsMapOf, Node.entries?, same]

/-- What fits before a silent change fits after it. -/
theorem Silent.fit (h : Silent es es') : Fit SectionFits es ↔ Fit SectionFits es' := by
  cases h with
  | order h => exact h.fit sectionFits_alike
  | unknown h => exact h.fit fun _ _ unknown mem => absurd mem unknown
  | inside es es' mark tag hk h =>
    have inner : Fit (FieldFits _) _ ↔ Fit (FieldFits _) _ := h.fit fun name value unknown =>
      fieldFits_of_unknown unknown value
    rw [fit_insert hk, fit_insert hk, sectionFits_mapping mark tag inner]
  | unsaid es es' mark tag hk fresh fit =>
    rw [fit_insert hk, and_iff_right]
    have empty := fit.imp fun name value unknown => fieldFits_of_unknown unknown value
    exact ⟨fun _ => ⟨_, rfl, empty⟩, fresh⟩

/-- A silent change changes nothing. -/
theorem Silent.overlay (h : Silent es es') (fit : Fit SectionFits es) :
    config.overlay (setting? es) = config.overlay (setting? es') := by
  cases h with
  | order h =>
    -- of the environment, which is a mapping itself, no name may come twice for this
    refine overlay_alike (fun heading mem name => setting?_reordered h fit mem name) fun v hv => ?_
    exact fieldFits_setting? fit (by decide) "env" hv
  | unknown h =>
    refine overlay_congr fun heading mem name _ => ?_
    rw [setting?, setting?, h.field? mem]
  | inside es es' mark tag hk h =>
    refine overlay_congr fun heading _ name known => setting?_inside mark tag fun here => ?_
    cases hk.symm.trans here
    exact h.field? known
  | unsaid es es' mark tag hk fresh empty =>
    exact overlay_congr fun heading _ name known => setting?_unsaid mark tag hk fresh empty known

/-- Any number of silent changes, made or taken back, change nothing. -/
theorem overlay_silently (config : Config) (h : Relation.EqvGen Silent es es') :
    (Fit SectionFits es ↔ Fit SectionFits es') ∧
      (Fit SectionFits es → config.overlay (setting? es) = config.overlay (setting? es')) := by
  induction h with
  | rel _ _ h => exact ⟨h.fit, h.overlay⟩
  | refl => exact ⟨Iff.rfl, fun _ => rfl⟩
  | symm _ _ _ ih => exact ⟨ih.1.symm, fun fit => (ih.2 (ih.1.mpr fit)).symm⟩
  | trans _ _ _ _ _ first second =>
    refine ⟨first.1.trans second.1, fun fit => ?_⟩
    exact (first.2 fit).trans (second.2 (first.1.mp fit))

/-! ## The law of documents -/

/-- What holds of a document that is a mapping with the entries `es`. -/
structure OverlayLaw (d : Document) (es : Entries) : Prop where
  /-- a field that is given has its value, and any other the value that it has by default -/
  given : Config.ofDocument d = .ok (Config.default.overlay (setting? es))
  /-- an environment that is given sets its keys to their values, and nothing else -/
  env : ∀ v, setting? es "git" "env" = some v → ∀ name,
    (Config.default.overlay (setting? es)).git.env.get? name =
      (v.entries?.bind (field? name)).bind Node.text?
  /-- silent changes, made or taken back, leave a document that is read as this one is -/
  silent : ∀ d' es', d'.Holds es' → Relation.EqvGen Silent es es' →
    Fit SectionFits es' ∧ Config.ofDocument d' = Config.ofDocument d
  /-- by default a section holds what it holds when it is given and says nothing -/
  sections : Config.default = { git := {}, lfs := {}, log := {} }

theorem documents_are_laid_over_the_defaults {d : Document} {es : Entries} (holds : d.Holds es)
    (fit : Fit SectionFits es) : OverlayLaw d es where
  given := Config.ofDocument_eq_overlay holds fit
  env v hv name := by
    obtain ⟨inner, hin, inside⟩ : v.IsMapOf IsText := fieldFits_setting? fit (by decide) _ hv
    rw [hin, Option.bind_some, ← get?_variables inside]
    simp [Config.overlay, GitSection.overlay, hv, Node.variables?, hin]
  silent d' es' holds' changes := by
    obtain ⟨fits, same⟩ := overlay_silently .default changes
    have fit' := fits.mp fit
    refine ⟨fit', ?_⟩
    rw [Config.ofDocument_eq_overlay holds' fit', Config.ofDocument_eq_overlay holds fit, same fit]
  sections := rfl

/-- A plain scalar. -/
def Yaml.Node.plain (text : String) : Node := .scalar {} { text, style := .plain }

@[simp] theorem Yaml.Node.text?_plain (text : String) : (Node.plain text).text? = some text := rfl

/-- A plain decimal is the number that it spells, if that has 64 bits. -/
theorem Yaml.Node.word?_plain {n : Nat} (hle : n ≤ maxWord) :
    (Node.plain (toString n)).word? = some n := by
  rw [← readUnsigned?_toString hle]
  rfl

/-- A plain word is the truth value that it spells. -/
theorem Yaml.Node.bool?_plain {text : String} {b : Bool}
    (h : text ∈ if b then ["true", "True", "TRUE"] else ["false", "False", "FALSE"]) :
    (Node.plain text).bool? = some b := by
  rw [← readBool?_eq_some.mpr h]
  rfl

theorem a_program_beside_an_unknown_field_is_read :
    let git := Node.mapping {} none
      [(.plain "colour", .sequence {} none []), (.plain "program", .plain "jgit"),
        (.plain "timeout_secs", .plain "90")]
    let lfs := Node.mapping {} none [(.plain "enabled", .plain "False")]
    let es := [(Node.plain "git", git), (.plain "lfs", lfs)]
    let d : Document := { root := some (.mapping {} none es) }
    d.Holds es ∧ Fit SectionFits es ∧
      Config.ofDocument d = .ok { Config.default with
        git := { GitSection.default with program := "jgit", timeoutSeconds := 90 }
        lfs := { LfsSection.default with enabled := false } } := by
  intro git lfs es d
  have holds : d.Holds es := ⟨⟨_, _, rfl⟩, rfl, rfl⟩
  have seconds : (Node.plain "90").word? = some 90 := Node.word?_plain (n := 90) (by decide)
  have enabled : (Node.plain "False").bool? = some false := Node.bool?_plain (by decide)
  have fit : Fit SectionFits es := by
    simp [fit_cons, fit_nil, SectionFits, Node.IsMapOf, es, git, lfs, Node.entries?, FieldFits, keys,
      seconds, enabled]
  exact ⟨holds, fit, (documents_are_laid_over_the_defaults holds fit).given.trans rfl⟩

end GitSteward
