-- The environment of a process: what its variables are set to, in the order of their names.
-- Names are unique, and the order is that of their bytes.

namespace GitSteward

/-- Assignments of variables as they are given, the same name possibly more than once. -/
abbrev Assignments := List (String × String)

/-- Sets a variable in a list that is sorted by name. -/
def putSorted (name value : String) : Assignments → Assignments
  | [] => [(name, value)]
  | (n, v) :: rest =>
    if name < n then (name, value) :: (n, v) :: rest
    else if n < name then (n, v) :: putSorted name value rest
    else (name, value) :: rest

theorem mem_putSorted {name value : String} {p : String × String} {l : Assignments}
    (h : p ∈ putSorted name value l) : p = (name, value) ∨ p ∈ l := by
  induction l with
  | nil => exact Or.inl (by simpa [putSorted] using h)
  | cons q rest ih =>
    obtain ⟨n, v⟩ := q
    unfold putSorted at h
    split at h
    · simpa using h
    · split at h
      · rcases List.mem_cons.mp h with h | h
        · exact Or.inr (by simp [h])
        · rcases ih h with h | h
          · exact Or.inl h
          · exact Or.inr (List.mem_cons_of_mem _ h)
      · rcases List.mem_cons.mp h with h | h
        · exact Or.inl h
        · exact Or.inr (List.mem_cons_of_mem _ h)

/-- Each name comes before the names after it. -/
def SortedByName (l : Assignments) : Prop := l.Pairwise (fun p q => p.1 < q.1)

theorem sortedByName_putSorted {name value : String} {l : Assignments} (h : SortedByName l) :
    SortedByName (putSorted name value l) := by
  unfold SortedByName at *
  induction l with
  | nil => simp [putSorted]
  | cons q rest ih =>
    obtain ⟨n, v⟩ := q
    obtain ⟨hn, hrest⟩ := List.pairwise_cons.mp h
    unfold putSorted
    split
    · rename_i hlt
      refine List.pairwise_cons.mpr ⟨?_, h⟩
      intro p hp
      rcases List.mem_cons.mp hp with hp | hp
      · simpa [hp] using hlt
      · exact String.lt_trans hlt (hn p hp)
    · split
      · rename_i hlt
        refine List.pairwise_cons.mpr ⟨?_, ih hrest⟩
        intro p hp
        rcases mem_putSorted hp with hp | hp
        · simpa [hp] using hlt
        · exact hn p hp
      · rename_i h1 h2
        have heq : name = n := String.le_antisymm h2 h1
        refine List.pairwise_cons.mpr ⟨?_, hrest⟩
        intro p hp
        simpa [heq] using hn p hp

/-- What the variables of a process are set to. -/
structure Environment where
  entries : Assignments := []
  sorted : SortedByName entries := by exact List.Pairwise.nil

namespace Environment

instance : Inhabited Environment := ⟨{}⟩

instance : DecidableEq Environment := fun a b =>
  decidable_of_iff (a.entries = b.entries) (by cases a; cases b; simp)

/-- The environment in which nothing is set. -/
def empty : Environment := {}

/-- Sets a variable. -/
def set (env : Environment) (name value : String) : Environment :=
  ⟨putSorted name value env.entries, sortedByName_putSorted env.sorted⟩

/-- Sets variables one after the other. -/
def setAll (env : Environment) (assignments : Assignments) : Environment :=
  assignments.foldl (fun env a => env.set a.1 a.2) env

/-- Unsets a variable. -/
def unset (env : Environment) (name : String) : Environment :=
  ⟨env.entries.filter (·.1 ≠ name), env.sorted.filter _⟩

/-- What a variable is set to. -/
def get? (env : Environment) (name : String) : Option String := env.entries.lookup name

/-- The names that are set, in order. -/
def names (env : Environment) : List String := env.entries.map (·.1)

/-- The environment that assignments make, the last one of each name counting. -/
def ofAssignments (assignments : Assignments) : Environment := empty.setAll assignments

end Environment

end GitSteward
