-- Feeding the input of a request to a process. A feeder passes bytes on in order through a
-- buffer of its own and closes the pipe when the source is exhausted. The first error of the
-- source or of the pipe ends the feeding and is reported.
import GitSteward.Stream.Source

namespace GitSteward

/-- How many bytes a feeder may hold. -/
def feederRoom : Nat := 8 * 1024

/-- What a feeder is doing. -/
inductive FeederPhase where
  | copying
  /-- nothing more is passed on, and the pipe is to be closed -/
  | closing
  | done
  /-- it was stopped before it was done -/
  | stopped
deriving Repr, DecidableEq, Inhabited

structure Feeder where
  phase : FeederPhase := .copying
  /-- bytes of the source that are not in the pipe yet -/
  buffer : Bytes := []
  /-- whether the source has ended -/
  sourceEnded : Bool := false
deriving Repr, DecidableEq, Inhabited

/-- What happens to a feeder. -/
inductive FeederEvent where
  | fill (bytes : Bytes)
  | sourceEnds
  | sourceFails (error : SystemError)
  /-- the pipe takes so many bytes -/
  | write (count : Nat)
  | pipeFails (error : SystemError)
  /-- the pipe is closed and the source let go -/
  | close
  | stop
deriving Repr, DecidableEq, Inhabited

namespace Feeder

/-- Whether the feeder has let go of the source and the pipe. -/
def isOver (f : Feeder) : Bool := f.phase = .done || f.phase = .stopped

/-- The feeder after an event, and the faults it reports then, if the event may happen. -/
def step (f : Feeder) (event : FeederEvent) : Option (Feeder × List Fault) :=
  match f.phase, event with
  | .copying, .fill bytes =>
    if f.sourceEnded || bytes.isEmpty || feederRoom < f.buffer.length + bytes.length then none
    else some ({ f with buffer := f.buffer ++ bytes }, [])
  | .copying, .sourceEnds => if f.sourceEnded then none else some ({ f with
      sourceEnded := true, phase := if f.buffer.isEmpty then .closing else .copying }, [])
  | .copying, .sourceFails e =>
    if f.sourceEnded then none
    else some ({ f with phase := .closing }, [.streamCopy .stdin e])
  | .copying, .write n =>
    if n = 0 || f.buffer.length < n then none
    else
      let buffer := f.buffer.drop n
      some ({ f with
        buffer, phase := if buffer.isEmpty && f.sourceEnded then .closing else .copying }, [])
  | .copying, .pipeFails e =>
    if f.buffer.isEmpty then none else some ({ f with phase := .closing }, [.streamCopy .stdin e])
  | .closing, .close => some ({ f with phase := .done }, [])
  | .done, _ | .stopped, _ => none
  | _, .stop => some ({ f with phase := .stopped }, [])
  | _, _ => none

end Feeder

end GitSteward
