-- The events that the program logs.
import GitSteward.Fault

namespace GitSteward

inductive LogLevel where
  | error
  | warn
  | info
  | debug
  | trace
deriving Repr, DecidableEq, Inhabited

namespace LogLevel

def text : LogLevel → String
  | error => "ERROR"
  | warn => "WARN"
  | info => "INFO"
  | debug => "DEBUG"
  | trace => "TRACE"

/-- How much a level lets through: the more, the greater. -/
def rank : LogLevel → Nat
  | error => 1
  | warn => 2
  | info => 3
  | debug => 4
  | trace => 5

end LogLevel

/-- A piece of work that the log knows by name. -/
structure LogSpan where
  level : LogLevel
  /-- the part of the program that does it -/
  origin : String
  name : String
  fields : List (String × String) := []
deriving Repr, DecidableEq, Inhabited

/-- One event of the log. -/
structure LogEvent where
  level : LogLevel
  /-- the part of the program that it comes from -/
  origin : String
  message : String
  fields : List (String × String) := []
  /-- the names of fields for what is measured, which is told elsewhere -/
  measured : List String := []
  /-- the work that it happened in -/
  span : Option LogSpan := none
deriving Repr, DecidableEq, Inhabited

/-- The names of all fields of an event. -/
def LogEvent.fieldNames (e : LogEvent) : List String :=
  "message" :: e.fields.map (·.1) ++ e.measured

/-- The event of a fault that is only reported. -/
def Fault.event (span : Option LogSpan) : Fault → LogEvent
  | .streamCopy stream e =>
    { level := .error, origin := "forgeserve::fault", message := "failed to copy stream"
      fields := [("stream", stream.text), ("error", e.message)], span }
  | fault =>
    { level := .error, origin := "forgeserve::fault", message := "service fault"
      fields := [("error", fault.message), ("outcome", fault.label)], span }

end GitSteward
