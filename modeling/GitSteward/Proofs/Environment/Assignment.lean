-- Assignments as single texts. A text is divided at its first equals sign and nowhere else, so an
-- assignment comes back as it was from its text if its name holds no such sign. An environment in
-- which all names are like that comes back whole from the texts that a process gets.
import GitSteward.Environment.Assignment
import GitSteward.Proofs.Config.Acceptance

namespace GitSteward

variable {cs before after : List Char} {s name value : String} {a : String × String}
variable {env : Environment} {l : Assignments}

/-! ## One text -/

theorem splitAtEquals_eq_some_iff :
    splitAtEquals cs = some (before, after) ↔ cs = before ++ '=' :: after ∧ '=' ∉ before := by
  induction cs generalizing before with
  | nil => simp [splitAtEquals]
  | cons c cs ih =>
    unfold splitAtEquals
    split
    · rename_i hc
      subst hc
      cases before with
      | nil => simp
      | cons b before =>
        refine ⟨nofun, fun ⟨he, absent⟩ => ?_⟩
        -- the first sign would stand before itself
        exact absurd ((List.cons.inj he).1 ▸ List.mem_cons_self) absent
    · rename_i hc
      rw [Option.map_eq_some_iff]
      constructor
      · rintro ⟨⟨rest, _⟩, hrest, he⟩
        cases he
        obtain ⟨rfl, absent⟩ := ih.mp hrest
        exact ⟨rfl, by simp [absent, eq_comm, hc]⟩
      · rintro ⟨he, absent⟩
        cases before with
        | nil => exact absurd (List.cons.inj he).1 hc
        | cons b rest =>
          obtain ⟨rfl, rfl⟩ := List.cons.inj he
          exact ⟨_, ih.mpr ⟨rfl, fun h => absent (List.mem_cons_of_mem _ h)⟩, rfl⟩

theorem splitAtEquals_eq_none_iff : splitAtEquals cs = none ↔ '=' ∉ cs := by
  induction cs with
  | nil => simp [splitAtEquals]
  | cons c cs ih =>
    unfold splitAtEquals
    split
    · simp_all
    · rename_i hc
      simp [ih, eq_comm, hc]

theorem toList_assignmentText (a : String × String) :
    (assignmentText a).toList = a.1.toList ++ '=' :: a.2.toList := by
  simp [assignmentText]

theorem splitAssignment_eq_some_iff :
    splitAssignment s = some a ↔ s = assignmentText a ∧ '=' ∉ a.1.toList := by
  obtain ⟨name, value⟩ := a
  rw [← String.toList_inj, toList_assignmentText, ← splitAtEquals_eq_some_iff, splitAssignment,
    Option.map_eq_some_iff]
  constructor
  · rintro ⟨⟨before, after⟩, hs, he⟩
    cases he
    simpa using hs
  · intro hs
    exact ⟨_, hs, by simp⟩

theorem splitAssignment_eq_none_iff : splitAssignment s = none ↔ '=' ∉ s.toList := by
  rw [splitAssignment, Option.map_eq_none_iff, splitAtEquals_eq_none_iff]

theorem splitAssignment_assignmentText (h : '=' ∉ a.1.toList) :
    splitAssignment (assignmentText a) = some a := splitAssignment_eq_some_iff.mpr ⟨rfl, h⟩

/-- Only the empty name is turned down. -/
theorem assignment?_eq (s : String) :
    assignment? s = (splitAssignment s).filter fun a => a.1 ≠ "" := by
  unfold assignment?
  cases splitAssignment s with
  | none => rfl
  | some a => by_cases he : a.1 = "" <;> simp [Option.filter, he]

theorem assignment?_eq_some_iff :
    assignment? s = some a ↔ s = assignmentText a ∧ GoodKey a.1 := by
  rw [assignment?_eq, Option.filter_eq_some_iff, splitAssignment_eq_some_iff, GoodKey]
  simp only [decide_not, Bool.not_eq_eq_eq_not, Bool.not_true, decide_eq_false_iff_not]
  tauto

theorem name_eq_empty_iff (h : '=' ∉ a.1.toList) :
    a.1 = "" ↔ ∃ value, assignmentText a = "=" ++ value := by
  constructor
  · intro he
    exact ⟨a.2, by rw [assignmentText, he, String.empty_append]⟩
  · rintro ⟨value, he⟩
    have same := congrArg String.toList he
    have sign : "=".toList = ['='] := rfl
    rw [toList_assignmentText, String.toList_append, sign] at same
    cases hname : a.1.toList with
    | nil => exact String.toList_eq_nil_iff.mp hname
    | cons c rest =>
      rw [hname] at same h
      exact absurd (List.cons.inj same).1 fun hc => h (hc ▸ List.mem_cons_self)

/-- A text makes no assignment only if it has no sign, or begins with one. -/
theorem assignment?_eq_none_iff :
    assignment? s = none ↔ '=' ∉ s.toList ∨ ∃ value, s = "=" ++ value := by
  rw [assignment?_eq, Option.filter_eq_none_iff]
  cases hs : splitAssignment s with
  | none => simp [splitAssignment_eq_none_iff.mp hs]
  | some a =>
    obtain ⟨rfl, absent⟩ := splitAssignment_eq_some_iff.mp hs
    rw [← name_eq_empty_iff absent]
    simp [toList_assignmentText]

/-! ## Entries -/

theorem mem_of_lastOf (h : lastOf l name = some value) : (name, value) ∈ l := by
  induction l with
  | nil => cases h
  | cons a rest ih =>
    rw [lastOf_cons, Option.or_eq_some_iff] at h
    rcases h with h | ⟨_, h⟩
    · exact List.mem_cons_of_mem _ (ih h)
    · split at h
      · rename_i hname
        cases h
        exact hname ▸ List.mem_cons_self
      · cases h

/-- What an environment sets is what the last assignments of its entries set. -/
theorem lastOf_of_sorted (sorted : SortedByName l) : lastOf l name = l.lookup name := by
  induction l with
  | nil => rfl
  | cons p rest ih =>
    obtain ⟨hp, hrest⟩ := List.pairwise_cons.mp sorted
    rw [lastOf_cons, ih hrest, lookup_entry]
    split
    · rename_i h
      have absent : rest.lookup name = none := by
        rw [Option.eq_none_iff_forall_ne_some]
        intro value hv
        have hlt := hp (name, value) ((mem_iff_lookup hrest).mpr hv)
        exact String.lt_irrefl name (h ▸ hlt)
      rw [absent, Option.none_or]
    · exact Option.or_none

theorem lastOf_entries (env : Environment) (name : String) :
    lastOf env.entries name = env.get? name := lastOf_of_sorted env.sorted

theorem ofAssignments_entries (env : Environment) : .ofAssignments env.entries = env := by
  refine Environment.eq_of_get? fun name => ?_
  rw [Environment.get?_ofAssignments, assign_apply, lastOf_entries, Option.or_none]

/-! ## All texts of an environment -/

/-- An environment that sets names as given, and comes back from the texts that a process gets. -/
structure ComesBack (vars : String → Option String) (env : Environment) : Prop where
  names : ∀ name ∈ env.names, GoodKey name
  divided : ∀ s ∈ env.block, (splitAssignment s).isSome
  /-- the texts tell what is set, and nothing else -/
  told : ∀ name value,
    (∃ s ∈ env.block, splitAssignment s = some (name, value)) ↔ vars name = some value
  /-- no two texts tell of the same name -/
  apart : env.block.Pairwise fun s t =>
    ∀ a b, splitAssignment s = some a → splitAssignment t = some b → a.1 ≠ b.1
  whole : .ofAssignments (env.block.filterMap splitAssignment) = env

theorem splitAssignment_of_entry (good : ∀ name ∈ env.names, GoodKey name) (h : a ∈ env.entries) :
    splitAssignment (assignmentText a) = some a :=
  splitAssignment_assignmentText (good a.1 (List.mem_map_of_mem h)).2

theorem comesBack (good : ∀ name ∈ env.names, GoodKey name) : ComesBack env.get? env where
  names := good
  divided s hs := by
    obtain ⟨a, ha, rfl⟩ := List.mem_map.mp hs
    rw [splitAssignment_of_entry good ha, Option.isSome_some]
  told name value := by
    rw [← Environment.mem_entries]
    constructor
    · rintro ⟨s, hs, he⟩
      obtain ⟨a, ha, rfl⟩ := List.mem_map.mp hs
      cases (splitAssignment_of_entry good ha).symm.trans he
      exact ha
    · intro h
      exact ⟨_, List.mem_map_of_mem h, splitAssignment_of_entry good h⟩
  apart := by
    refine List.pairwise_map.mpr (env.sorted.imp_of_mem fun ha hb hlt a' b' ha' hb' same => ?_)
    cases (splitAssignment_of_entry good ha).symm.trans ha'
    cases (splitAssignment_of_entry good hb).symm.trans hb'
    exact String.lt_irrefl _ (same ▸ hlt)
  whole := by
    have back : env.block.filterMap splitAssignment = env.entries := by
      rw [Environment.block, List.filterMap_map]
      refine (List.filterMap_congr fun a ha => ?_).trans List.filterMap_some
      exact splitAssignment_of_entry good ha
    rw [back, ofAssignments_entries]

end GitSteward
