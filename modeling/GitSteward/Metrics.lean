-- Counts and durations of invocations, by service.
import GitSteward.Fault

namespace GitSteward

/-- The upper ends of the buckets of durations, in seconds. -/
def bucketBounds : List Float := (List.range 14).map fun i => 0.01 * Float.ofNat (Nat.pow 2 i)

/-- A duration of so many nanoseconds, in seconds. -/
def seconds (nanoseconds : Nat) : Float :=
  Float.ofNat (nanoseconds / 1_000_000_000) + Float.ofNat (nanoseconds % 1_000_000_000) / 1e9

/-- The durations of the invocations of a service. -/
structure Histogram where
  count : Nat := 0
  total : Float := 0.0
  /-- how many durations lie in each bucket and in none before it -/
  buckets : List Nat := List.replicate 14 0
deriving Inhabited

/-- Adds one to the first bucket whose bound a duration does not exceed. -/
def addToBucket (x : Float) : List (Float × Nat) → List Nat
  | [] => []
  | (bound, n) :: rest =>
    if x ≤ bound then (n + 1) :: rest.map (·.2) else n :: addToBucket x rest

/-- Adds a duration. -/
def Histogram.observe (h : Histogram) (x : Float) : Histogram where
  count := h.count + 1
  total := h.total + x
  buckets := addToBucket x (bucketBounds.zip h.buckets)

/-- Changes the value of a key, or adds the key with what a new value changes to. -/
def upsert [DecidableEq κ] (key : κ) (new : α) (change : α → α) : List (κ × α) → List (κ × α)
  | [] => [(key, change new)]
  | (k, a) :: rest =>
    if k = key then (k, change a) :: rest else (k, a) :: upsert key new change rest

/-- What counts an invocation: the name of its service and the label of its outcome. -/
structure InvocationKey where
  service : String
  outcome : String
deriving Repr, DecidableEq, Inhabited

structure Metrics where
  invocations : List (InvocationKey × Nat) := []
  durations : List (String × Histogram) := []
deriving Inhabited

namespace Metrics

/-- Counts an invocation of a service. -/
def count (m : Metrics) (service outcome : String) : Metrics :=
  { m with invocations := upsert ⟨service, outcome⟩ 0 (· + 1) m.invocations }

/-- Records a finished invocation, which took so many nanoseconds. -/
def observe (m : Metrics) (service : String) (outcome : Outcome) (elapsed : Nat) : Metrics :=
  let m := m.count service outcome.label
  { m with durations := upsert service {} (·.observe (seconds elapsed)) m.durations }

/-- Records a request that was turned away before any service took it. -/
def observeRejected (m : Metrics) (fault : Fault) : Metrics := m.count "unknown" fault.label

/-- How often a service ended with an outcome. -/
def invocationCount (m : Metrics) (service outcome : String) : Nat :=
  (m.invocations.lookup ⟨service, outcome⟩).getD 0

/-- How many durations of a service are recorded. -/
def durationCount (m : Metrics) (service : String) : Nat :=
  ((m.durations.lookup service).map (·.count)).getD 0

end Metrics

end GitSteward
