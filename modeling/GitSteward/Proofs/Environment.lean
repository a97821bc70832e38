-- An environment is a map from names to values. Assignments made one after the other leave the last
-- one of each name, and changes made to it by a hook are changes to the map.
import GitSteward.Launch
import Mathlib.Data.List.Nodup
import Mathlib.Logic.Function.Basic

namespace GitSteward

variable {env : Environment} {name value : String} {first second : Assignments}

/-! ## Names and values -/

theorem lookup_entry {κ α : Type} [DecidableEq κ] (n : κ) (v : α) (rest : List (κ × α))
    (name : κ) : ((n, v) :: rest).lookup name = if name = n then some v else rest.lookup name := by
  rw [List.lookup_cons]
  by_cases h : name = n
  · simp [h]
  · rw [if_neg h, beq_false_of_ne h]

theorem lookup_putSorted (name value other : String) (l : Assignments) :
    (putSorted name value l).lookup other =
      if other = name then some value else l.lookup other := by
  induction l with
  | nil => rw [putSorted, lookup_entry]
  | cons p rest ih =>
    obtain ⟨n, v⟩ := p
    unfold putSorted
    split
    · rw [lookup_entry]
    · split
      · rename_i hlt
        have hne : name ≠ n := fun he => String.lt_irrefl n (he ▸ hlt)
        rw [lookup_entry, lookup_entry, ih]
        split
        · rename_i he
          rw [if_neg (fun h => hne (h.symm.trans he))]
        · rfl
      · rename_i h₁ h₂
        have hn : name = n := String.le_antisymm h₂ h₁
        rw [lookup_entry, lookup_entry, hn]
        split <;> rfl

theorem lookup_filter_ne (name other : String) (l : Assignments) :
    (l.filter (·.1 ≠ name)).lookup other = if other = name then none else l.lookup other := by
  induction l with
  | nil => exact (ite_self none).symm
  | cons p rest ih =>
    obtain ⟨n, v⟩ := p
    by_cases hn : n = name
    · subst hn
      rw [List.filter_cons_of_neg (by simp), ih, lookup_entry]
      split <;> rfl
    · rw [List.filter_cons_of_pos (by simpa using hn), lookup_entry, lookup_entry, ih]
      split
      · rename_i he
        rw [if_neg (fun h => hn (he.symm.trans h))]
      · rfl

theorem mem_iff_lookup {l : Assignments} (sorted : SortedByName l) :
    (name, value) ∈ l ↔ l.lookup name = some value := by
  induction l with
  | nil => simp
  | cons p rest ih =>
    obtain ⟨n, v⟩ := p
    obtain ⟨hn, hrest⟩ := List.pairwise_cons.mp sorted
    rw [lookup_entry, List.mem_cons]
    split
    · rename_i h
      subst h
      have absent : (name, value) ∉ rest := fun hm => String.lt_irrefl name (hn (name, value) hm)
      simp [absent, eq_comm]
    · rename_i h
      simpa [h] using ih hrest

namespace Environment

theorem get?_set (env : Environment) (name value : String) :
    (env.set name value).get? = Function.update env.get? name (some value) := by
  funext other
  rw [Function.update_apply]
  exact lookup_putSorted name value other env.entries

theorem get?_unset (env : Environment) (name : String) :
    (env.unset name).get? = Function.update env.get? name none := by
  funext other
  rw [Function.update_apply]
  exact lookup_filter_ne name other env.entries

/-- The entries of an environment are what it sets. -/
theorem mem_entries : (name, value) ∈ env.entries ↔ env.get? name = some value :=
  mem_iff_lookup env.sorted

theorem mem_names : name ∈ env.names ↔ (env.get? name).isSome := by
  simp [names, ← mem_entries, Option.isSome_iff_exists]

/-- The names come in order. -/
theorem sorted_names (env : Environment) : env.names.Pairwise (· < ·) :=
  List.pairwise_map.mpr env.sorted

/-- No name is set twice. -/
theorem nodup_names (env : Environment) : env.names.Nodup := by
  refine env.sorted_names.imp fun {a b} h he => ?_
  exact String.lt_irrefl b (he ▸ h)

/-- Environments that set the same are the same. -/
theorem eq_of_get? {env other : Environment} (h : ∀ name, env.get? name = other.get? name) :
    env = other := by
  have nodup (e : Environment) : e.entries.Nodup := List.Nodup.of_map _ e.nodup_names
  have perm : env.entries.Perm other.entries := by
    rw [List.perm_ext_iff_of_nodup (nodup env) (nodup other)]
    intro a
    rw [mem_entries, mem_entries, h]
  have same : env.entries = other.entries := by
    refine List.Perm.eq_of_pairwise ?_ env.sorted other.sorted perm
    intro a b _ _ hab hba
    exact absurd (String.lt_trans hab hba) (String.lt_irrefl _)
  cases env
  cases other
  cases same
  rfl

end Environment

/-! ## Assignments -/

/-- What assignments make of a name, the last one of it counting. -/
def lastOf (assignments : Assignments) (name : String) : Option String :=
  assignments.reverse.lookup name

theorem lastOf_append :
    lastOf (first ++ second) name = (lastOf second name).or (lastOf first name) := by
  rw [lastOf, List.reverse_append, List.lookup_append]
  rfl

theorem lastOf_cons (a : String × String) (rest : Assignments) :
    lastOf (a :: rest) name = (lastOf rest name).or (if name = a.1 then some a.2 else none) := by
  have one : lastOf [a] name = if name = a.1 then some a.2 else none :=
    lookup_entry a.1 a.2 [] name
  rw [← List.singleton_append, lastOf_append, one]

/-- What names are set to when assignments have been made one after the other. -/
def assign (vars : String → Option String) (assignments : Assignments) :
    String → Option String :=
  assignments.foldl (fun vars a => Function.update vars a.1 (some a.2)) vars

theorem assign_apply (vars : String → Option String) (l : Assignments) :
    assign vars l name = (lastOf l name).or (vars name) := by
  induction l generalizing vars with
  | nil => rfl
  | cons a rest ih =>
    have step : assign vars (a :: rest) = assign (Function.update vars a.1 (some a.2)) rest := rfl
    rw [step, ih, lastOf_cons, Function.update_apply, Option.or_assoc]
    split <;> rfl

theorem Environment.get?_setAll (env : Environment) (l : Assignments) :
    (env.setAll l).get? = assign env.get? l := by
  induction l generalizing env with
  | nil => rfl
  | cons a rest ih =>
    have step : env.setAll (a :: rest) = (env.set a.1 a.2).setAll rest := rfl
    rw [step, ih, get?_set]
    rfl

theorem Environment.get?_ofAssignments (l : Assignments) :
    (ofAssignments l).get? = assign (fun _ => none) l := get?_setAll _ _

/-! ## Changes by a hook -/

/-- What a change makes of the variables. -/
def Edit.vars (vars : String → Option String) : Edit → String → Option String
  | .set name value => Function.update vars name (some value)
  | .unset name => Function.update vars name none
  | .clear => fun _ => none
  | .arg _ | .dir _ => vars

theorem get?_edit (l : Launch) (e : Edit) : (l.edit e).env.get? = e.vars l.env.get? := by
  cases e with
  | set name value => exact l.env.get?_set name value
  | unset name => exact l.env.get?_unset name
  | clear | arg | dir => rfl

theorem get?_editAll (l : Launch) (edits : List Edit) :
    (l.editAll edits).env.get? = edits.foldl Edit.vars l.env.get? := by
  induction edits generalizing l with
  | nil => rfl
  | cons e rest ih =>
    have step : l.editAll (e :: rest) = (l.edit e).editAll rest := rfl
    rw [step, ih, get?_edit]
    rfl

end GitSteward
