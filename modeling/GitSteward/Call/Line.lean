-- One output of a process on its way to the client: the pipe that processes write into, and the
-- copier that reads from it. Whatever else goes on in a call, nothing but the moves below
-- touches either of them.
import GitSteward.Call.Copier
import GitSteward.Stream.Pipe

namespace GitSteward

structure Line where
  pipe : Pipe
  copier : Copier
deriving Repr, DecidableEq, Inhabited

/-- What happens on a line. -/
inductive LineMove where
  /-- a process writes -/
  | writes (bytes : Bytes)
  /-- the last end of the pipe that processes hold is closed -/
  | closes
  /-- the copier reads so many bytes -/
  | reads (count : Nat)
  /-- anything else that happens to the copier -/
  | copier (event : CopierEvent)
deriving Repr, DecidableEq, Inhabited

namespace Line

/-- The line of a stream when the process has just been started. -/
def fresh (stream : StreamName) (limit capacity : Nat) : Line where
  pipe := { capacity }
  copier := { stream, limit }

/-- Passes an event on to the copier. One that does nothing more lets go of its end of the
pipe. -/
def tell (l : Line) (event : CopierEvent) : Option (Line × List Fault) := do
  let (copier, faults) ← l.copier.step event
  return ({ pipe := if copier.isOver then l.pipe.closeReader else l.pipe, copier }, faults)

/-- The line after a move, and the faults that are reported then, if the move may be made. -/
def step (l : Line) : LineMove → Option (Line × List Fault)
  | .writes bytes => (l.pipe.write bytes).map fun pipe => ({ l with pipe }, [])
  | .closes => some ({ l with pipe := l.pipe.closeWriter }, [])
  | .reads count => do
    let (bytes, pipe) ← l.pipe.read count
    let (copier, faults) ← l.copier.step (.read bytes)
    return ({ pipe, copier }, faults)
  | .copier (.read _) => none
  | .copier .pipeEnds => if l.pipe.atEnd then l.tell .pipeEnds else none
  | .copier event => l.tell event

/-- The line after moves, and the faults reported on the way. -/
def run (l : Line) : List LineMove → Option (Line × List Fault)
  | [] => some (l, [])
  | m :: rest => do
    let (l, faults) ← l.step m
    let (l, more) ← l.run rest
    return (l, faults ++ more)

end Line

end GitSteward
