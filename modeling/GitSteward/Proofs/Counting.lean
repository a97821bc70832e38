-- What metrics count. The end of an invocation adds one to one counter and one to the durations of
-- its service. A request that is turned away adds one to one counter alone.
import GitSteward.Metrics
import GitSteward.Proofs.Environment
import Mathlib.Algebra.GroupWithZero.Nat
import Mathlib.Data.List.Count

namespace GitSteward

section Upsert

variable {κ α : Type} [DecidableEq κ]

theorem lookup_upsert (key k : κ) (new : α) (change : α → α) (l : List (κ × α)) :
    (upsert key new change l).lookup k =
      if k = key then some (change ((l.lookup key).getD new)) else l.lookup k := by
  induction l with
  | nil => simp [upsert, lookup_entry]
  | cons kv rest ih =>
    obtain ⟨k', a⟩ := kv
    by_cases hkey : k' = key
    · subst hkey
      by_cases hk : k = k' <;> simp [upsert, lookup_entry, hk]
    · have hkey' : key ≠ k' := Ne.symm hkey
      by_cases hk : k = k'
      · subst hk
        simp [upsert, hkey]
      · simp [upsert, lookup_entry, hkey, hkey', hk, ih]

/-- The sum of the counters whose keys are of a kind. -/
def sumWhere (p : κ → Bool) (l : List (κ × Nat)) : Nat :=
  ((l.filter fun kv => p kv.1).map (·.2)).sum

/-- To count a key adds one to every sum that the key is part of. -/
theorem sumWhere_upsert (p : κ → Bool) (key : κ) (l : List (κ × Nat)) :
    sumWhere p (upsert key 0 (· + 1) l) = sumWhere p l + if p key then 1 else 0 := by
  induction l with
  | nil => cases hp : p key <;> simp [sumWhere, upsert, hp]
  | cons kv rest ih =>
    obtain ⟨k, n⟩ := kv
    simp only [sumWhere] at ih
    by_cases hkey : k = key
    · subst hkey
      cases hp : p k <;> simp [sumWhere, upsert, hp]
      omega
    · cases hp : p k <;> simp [sumWhere, upsert, hkey, hp, ih, Nat.add_assoc]

end Upsert

namespace Metrics

variable {m m' : Metrics} {keys keys' : List InvocationKey} {names names' : List String}
variable {key : Option InvocationKey} {name : Option String}

/-- One more is counted of a key and of the durations of a service, if of any. -/
structure Gains (m m' : Metrics) (key : Option InvocationKey) (name : Option String) : Prop where
  counts : ∀ service outcome, m'.invocationCount service outcome =
    m.invocationCount service outcome + if key = some ⟨service, outcome⟩ then 1 else 0
  sums : ∀ p, sumWhere p m'.invocations = sumWhere p m.invocations + if key.any p then 1 else 0
  durations : ∀ service, m'.durationCount service =
    m.durationCount service + if name = some service then 1 else 0

theorem Gains.refl (m : Metrics) : m.Gains m none none := ⟨by simp, by simp, by simp⟩

theorem gains_count (m : Metrics) (service outcome : String) :
    m.Gains (m.count service outcome) (some ⟨service, outcome⟩) none := by
  refine ⟨fun s o => ?_, fun p => ?_, fun s => ?_⟩
  · simp only [invocationCount, count, lookup_upsert, Option.some.injEq]
    by_cases h : (⟨s, o⟩ : InvocationKey) = ⟨service, outcome⟩
    · simp [h]
    · simp [h, Ne.symm h]
  · exact sumWhere_upsert p _ m.invocations
  · simp [durationCount, count]

theorem gains_observe (m : Metrics) (service : String) (outcome : Outcome) (elapsed : Nat) :
    m.Gains (m.observe service outcome elapsed) (some ⟨service, outcome.label⟩) (some service) := by
  have counted := gains_count m service outcome.label
  refine ⟨counted.counts, counted.sums, fun s => ?_⟩
  simp only [durationCount, observe, count, lookup_upsert, Option.some.injEq]
  by_cases h : s = service
  · subst h
    cases m.durations.lookup s <;> simp [Histogram.observe]
  · simp [h, Ne.symm h]

theorem gains_observeRejected (m : Metrics) (fault : Fault) :
    m.Gains (m.observeRejected fault) (some ⟨"unknown", fault.label⟩) none :=
  gains_count m _ _

/-- Metrics tell how often each key was counted, and how many durations there are by service. -/
structure Tallies (m : Metrics) (keys : List InvocationKey) (names : List String) : Prop where
  counts : ∀ service outcome, m.invocationCount service outcome = keys.count ⟨service, outcome⟩
  sums : ∀ p, sumWhere p m.invocations = keys.countP p
  durations : ∀ service, m.durationCount service = names.count service

theorem tallies_nil : Tallies {} [] [] := ⟨fun _ _ => rfl, fun _ => rfl, fun _ => rfl⟩

theorem Tallies.perm (h : m.Tallies keys names) (hk : keys.Perm keys') (hn : names.Perm names') :
    m.Tallies keys' names' := by
  refine ⟨fun s o => ?_, fun p => ?_, fun s => ?_⟩
  · rw [h.counts, hk.count_eq]
  · rw [h.sums, hk.countP_eq]
  · rw [h.durations, hn.count_eq]

theorem Tallies.gains (h : m.Tallies keys names) (g : m.Gains m' key name) :
    m'.Tallies (keys ++ key.toList) (names ++ name.toList) := by
  refine ⟨fun s o => ?_, fun p => ?_, fun s => ?_⟩
  · rw [g.counts, h.counts, List.count_append]
    cases key <;> simp [List.count_singleton]
  · rw [g.sums, h.sums, List.countP_append]
    cases key <;> simp [List.countP_singleton]
  · rw [g.durations, h.durations, List.count_append]
    cases name <;> simp [List.count_singleton]

end Metrics

end GitSteward
