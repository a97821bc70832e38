-- Mappings of a document as maps from names to values. Where all keys are scalars and none comes
-- twice, what is found under a name does not depend on the order of the entries.
import GitSteward.Yaml.Node
import Mathlib.Data.List.Forall2
import Mathlib.Data.List.Perm.Basic
import Mathlib.Data.Option.Basic

namespace GitSteward.Yaml

/-- The entries of a mapping: a key and its value each. -/
abbrev Entries := List (Node × Node)

/-- The text of a scalar. -/
def Node.text? : Node → Option String
  | .scalar _ s => some s.text
  | _ => none

/-- The entries of a node that is a mapping. -/
def Node.entries? : Node → Option Entries
  | .mapping _ _ entries => some entries
  | _ => none

/-- The keys of entries as texts. -/
def keys (es : Entries) : List (Option String) := es.map (·.1.text?)

/-- The value under a name. -/
def field? (name : String) : Entries → Option Node
  | [] => none
  | (key, value) :: rest => if key.text? = some name then some value else field? name rest

/-- All keys are scalars, none comes twice, and each value fits its name. -/
structure Fit (fits : String → Node → Prop) (es : Entries) : Prop where
  scalars : none ∉ keys es
  distinct : (keys es).Nodup
  values : ∀ e ∈ es, ∀ name, e.1.text? = some name → fits name e.2

/-- A mapping in which each value fits its name. -/
def Node.IsMapOf (fits : String → Node → Prop) (node : Node) : Prop :=
  ∃ es, node.entries? = some es ∧ Fit fits es

variable {es es' mid : Entries} {key value : Node} {name : String} {v v' : Node}
variable {fits : String → Node → Prop}

theorem keys_cons {e : Node × Node} : keys (e :: es) = e.1.text? :: keys es := rfl

theorem keys_append : keys (es ++ es') = keys es ++ keys es' := List.map_append

/-! ## Values by name -/

theorem field?_append : field? name (es ++ es') = (field? name es).or (field? name es') := by
  induction es with
  | nil => rfl
  | cons e rest ih =>
    rw [List.cons_append, field?, field?, ih]
    split <;> rfl

theorem field?_eq_none (h : some name ∉ keys es) : field? name es = none := by
  induction es with
  | nil => rfl
  | cons e rest ih =>
    obtain ⟨here, later⟩ := List.ne_and_not_mem_of_not_mem_cons h
    rw [field?, if_neg (Ne.symm here), ih later]

theorem mem_of_field? (h : field? name es = some v) :
    ∃ key, (key, v) ∈ es ∧ key.text? = some name := by
  induction es with
  | nil => cases h
  | cons e rest ih =>
    rw [field?] at h
    split at h
    · rename_i hk
      cases h
      exact ⟨e.1, List.mem_cons_self, hk⟩
    · obtain ⟨key, hm, hk⟩ := ih h
      exact ⟨key, List.mem_cons_of_mem _ hm, hk⟩

theorem field?_of_mem (distinct : (keys es).Nodup) (h : (key, v) ∈ es)
    (hk : key.text? = some name) : field? name es = some v := by
  induction es with
  | nil => cases h
  | cons e rest ih =>
    obtain ⟨fresh, distinct⟩ := List.nodup_cons.mp distinct
    rcases List.mem_cons.mp h with rfl | h
    · rw [field?, if_pos hk]
    · have other : e.1.text? ≠ some name := fun he =>
        fresh (List.mem_map.mpr ⟨(key, v), h, hk.trans he.symm⟩)
      rw [field?, if_neg other, ih distinct h]

/-- What is found under a name does not depend on the order. -/
theorem field?_perm (distinct : (keys es).Nodup) (h : es.Perm es') :
    field? name es = field? name es' := by
  have distinct' : (keys es').Nodup := (h.map _).nodup_iff.mp distinct
  refine Option.ext fun v => ⟨fun hv => ?_, fun hv => ?_⟩
  · obtain ⟨key, hm, hk⟩ := mem_of_field? hv
    exact field?_of_mem distinct' (h.mem_iff.mp hm) hk
  · obtain ⟨key, hm, hk⟩ := mem_of_field? hv
    exact field?_of_mem distinct (h.mem_iff.mpr hm) hk

theorem Fit.field? (h : Fit fits es) (hv : field? name es = some v) : fits name v := by
  obtain ⟨key, hm, hk⟩ := mem_of_field? hv
  exact h.values _ hm _ hk

/-- Under no name that does not fit is a value found. -/
theorem Fit.field?_eq_none (h : Fit fits es) (unfit : ∀ v, ¬fits name v) :
    Yaml.field? name es = none := by
  cases hv : Yaml.field? name es with
  | none => rfl
  | some v => exact absurd (h.field? hv) (unfit v)

theorem Fit.imp {fits' : String → Node → Prop} (h : Fit fits es)
    (weaker : ∀ name value, fits name value → fits' name value) : Fit fits' es :=
  ⟨h.scalars, h.distinct, fun e he name hn => weaker name e.2 (h.values e he name hn)⟩

theorem fit_nil : Fit fits [] := ⟨nofun, .nil, nofun⟩

theorem fit_cons {e : Node × Node} : Fit fits (e :: es) ↔
    (∃ name, e.1.text? = some name ∧ fits name e.2 ∧ some name ∉ keys es) ∧ Fit fits es := by
  constructor
  · rintro ⟨scalars, distinct, values⟩
    obtain ⟨here, scalars⟩ := List.ne_and_not_mem_of_not_mem_cons scalars
    obtain ⟨fresh, distinct⟩ := List.nodup_cons.mp distinct
    obtain ⟨here', values⟩ := List.forall_mem_cons.mp values
    obtain ⟨name, hn⟩ := Option.ne_none_iff_exists'.mp (Ne.symm here)
    exact ⟨⟨name, hn, here' name hn, hn ▸ fresh⟩, scalars, distinct, values⟩
  · rintro ⟨⟨name, hn, here, fresh⟩, scalars, distinct, values⟩
    refine ⟨?_, ?_, List.forall_mem_cons.mpr ⟨?_, values⟩⟩
    · rw [keys_cons, hn]
      exact List.not_mem_cons_of_ne_of_not_mem nofun scalars
    · rw [keys_cons, hn]
      exact List.nodup_cons.mpr ⟨fresh, distinct⟩
    · intro other ho
      cases hn.symm.trans ho
      exact here

theorem fit_perm (h : es.Perm es') : Fit fits es ↔ Fit fits es' := by
  have keysPerm : (keys es).Perm (keys es') := h.map _
  refine ⟨fun f => ⟨?_, keysPerm.nodup_iff.mp f.distinct, ?_⟩,
    fun f => ⟨?_, keysPerm.nodup_iff.mpr f.distinct, ?_⟩⟩
  · exact fun hm => f.scalars (keysPerm.mem_iff.mpr hm)
  · exact fun e he => f.values e (h.mem_iff.mpr he)
  · exact fun hm => f.scalars (keysPerm.mem_iff.mp hm)
  · exact fun e he => f.values e (h.mem_iff.mp he)

/-- Entries fit when one of them does and the others do, and no other has its name. -/
theorem fit_insert (hk : key.text? = some name) :
    Fit fits (es ++ (key, value) :: es') ↔
      (fits name value ∧ some name ∉ keys (es ++ es')) ∧ Fit fits (es ++ es') := by
  rw [fit_perm List.perm_middle, fit_cons]
  simp [hk]

/-! ## Entries of no interest -/

/-- Entries become more by one, somewhere, under a name that is not one of `names`. -/
inductive Adds (names : List String) : Entries → Entries → Prop
  | mk (es es' : Entries) {key : Node} {name : String} (value : Node) (hk : key.text? = some name)
      (unknown : name ∉ names) (fresh : some name ∉ keys (es ++ es')) :
      Adds names (es ++ es') (es ++ (key, value) :: es')

theorem field?_insert (h : key.text? ≠ some name) :
    field? name (es ++ (key, value) :: es') = field? name (es ++ es') := by
  rw [field?_append, field?, if_neg h, field?_append]

theorem Adds.field? {names : List String} (h : Adds names es es') (mem : name ∈ names) :
    Yaml.field? name es = Yaml.field? name es' := by
  obtain ⟨es, es', value, hk, unknown, fresh⟩ := h
  refine (field?_insert fun hn => unknown ?_).symm
  cases hk.symm.trans hn
  exact mem

theorem Adds.fit {names : List String} (h : Adds names es es')
    (free : ∀ name value, name ∉ names → fits name value) : Fit fits es ↔ Fit fits es' := by
  obtain ⟨es, es', value, hk, unknown, fresh⟩ := h
  rw [fit_insert hk, and_iff_right ⟨free _ value unknown, fresh⟩]

/-! ## Trees in another order -/

/-- Two nodes that are the same but for the order of the entries of mappings, at any level, and
for their places in the text. -/
inductive Alike : Node → Node → Prop
  | scalar (m m' : Mark) (s : Scalar) : Alike (.scalar m s) (.scalar m' s)
  | sequence (m m' : Mark) (tag : Option TagBytes) {items items' : List Node}
      (h : List.Forall₂ Alike items items') :
      Alike (.sequence m tag items) (.sequence m' tag items')
  | mapping (m m' : Mark) (tag : Option TagBytes) {es mid es' : Entries} (perm : es.Perm mid)
      (h : List.Forall₂ (Prod.RProd Alike Alike) mid es') :
      Alike (.mapping m tag es) (.mapping m' tag es')

/-- The entries of two mappings that are alike. -/
def Reordered (es es' : Entries) : Prop :=
  ∃ mid, es.Perm mid ∧ List.Forall₂ (Prod.RProd Alike Alike) mid es'

theorem Alike.text? (h : Alike v v') : v.text? = v'.text? := by cases h <;> rfl

theorem Alike.entries? (h : Alike v v') : Option.Rel Reordered v.entries? v'.entries? := by
  cases h with
  | scalar | sequence => exact .none
  | mapping m m' tag perm h => exact .some ⟨_, perm, h⟩

theorem keys_of_alike (h : List.Forall₂ (Prod.RProd Alike Alike) es es') : keys es = keys es' := by
  induction h with
  | nil => rfl
  | cons h _ ih =>
    obtain ⟨hk, _⟩ := h
    exact congrArg₂ List.cons hk.text? ih

theorem Reordered.keys (h : Reordered es es') : (keys es).Perm (keys es') := by
  obtain ⟨mid, perm, h⟩ := h
  exact keys_of_alike h ▸ perm.map _

/-- The same is found under a name, but for the order. -/
theorem Reordered.field? (h : Reordered es es') (distinct : (Yaml.keys es).Nodup) (name : String) :
    Option.Rel Alike (Yaml.field? name es) (Yaml.field? name es') := by
  obtain ⟨mid, perm, h⟩ := h
  rw [field?_perm distinct perm]
  clear perm distinct
  induction h with
  | nil => exact .none
  | cons h _ ih =>
    obtain ⟨hk, hv⟩ := h
    rw [Yaml.field?, Yaml.field?, ← hk.text?]
    split
    · exact .some hv
    · exact ih

theorem Reordered.fit (h : Reordered es es')
    (same : ∀ name v v', Alike v v' → (fits name v ↔ fits name v')) :
    Fit fits es ↔ Fit fits es' := by
  obtain ⟨mid, perm, h⟩ := h
  rw [fit_perm perm]
  clear perm
  induction h with
  | nil => rfl
  | cons h rest ih =>
    obtain ⟨hk, hv⟩ := h
    simp only [fit_cons, ih, hk.text?, same _ _ _ hv, keys_of_alike rest]

theorem Alike.isMapOf (h : Alike v v')
    (same : ∀ name v v', Alike v v' → (fits name v ↔ fits name v')) :
    v.IsMapOf fits ↔ v'.IsMapOf fits := by
  unfold Node.IsMapOf
  cases h with
  | scalar | sequence => rfl
  | mapping m m' tag perm h =>
    have fit := Reordered.fit ⟨_, perm, h⟩ same
    simp [Node.entries?, fit]

end GitSteward.Yaml
