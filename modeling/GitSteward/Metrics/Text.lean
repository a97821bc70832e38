-- Metrics as text: a help line and a type line for each family, then a line for each sample.
import GitSteward.Metrics
import GitSteward.Decimal.Text

namespace GitSteward

/-- A number as a value or a bound. -/
def numberText (x : Float) : String := (Decimal.Double.ofFloat x).metricText

/-- Labels in braces, the values as they are. -/
def labelsText (labels : List (String × String)) : String :=
  "\x7b" ++ ",".intercalate (labels.map fun l => l.1 ++ "=\"" ++ l.2 ++ "\"") ++ "\x7d"

namespace Metrics

def invocationsName : String := "forgeserve_invocations"

def durationsName : String := "forgeserve_invocation_duration_seconds"

def headLines (name help kind : String) : List String :=
  ["# HELP " ++ name ++ " " ++ help ++ ".", "# TYPE " ++ name ++ " " ++ kind]

def invocationLine (sample : InvocationKey × Nat) : String :=
  invocationsName ++ "_total" ++
  labelsText [("service", sample.1.service), ("outcome", sample.1.outcome)] ++ " " ++
  toString sample.2

/-- How many durations lie in each bucket or one before it. -/
def cumulative (n : Nat) : List Nat → List Nat
  | [] => []
  | k :: rest => (n + k) :: cumulative (n + k) rest

def durationLines (sample : String × Histogram) : List String :=
  let (service, h) := sample
  let own := labelsText [("service", service)]
  let bucket (bound : String) (n : Nat) :=
    durationsName ++ "_bucket" ++ labelsText [("le", bound), ("service", service)] ++ " " ++
    toString n
  (durationsName ++ "_sum" ++ own ++ " " ++ numberText h.total) ::
  (durationsName ++ "_count" ++ own ++ " " ++ toString h.count) ::
  List.zipWith bucket (bucketBounds.map numberText) (cumulative 0 h.buckets) ++
  [bucket "+Inf" h.count]

/-- All lines. -/
def lines (m : Metrics) : List String :=
  headLines invocationsName "Service invocations by service and outcome" "counter" ++
  m.invocations.map invocationLine ++
  headLines durationsName "Service invocation latency in seconds" "histogram" ++
  m.durations.flatMap durationLines ++
  ["# EOF"]

end Metrics

end GitSteward
