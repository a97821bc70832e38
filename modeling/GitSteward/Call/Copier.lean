-- Copying one output of a process to a sink. A copier reads until the pipe ends or breaks, keeps
-- the last bytes for messages, and offers what it has read to the sink. Once the sink has failed
-- the copier goes on reading all the same, so that the process is never held up; what it reads
-- is then dropped. A sink that has not failed is flushed at the end.
import GitSteward.Stream.Queue
import GitSteward.Stream.Sink
import GitSteward.Stream.Tape

namespace GitSteward

/-- The most bytes that a copier reads at once. -/
def copyPiece : Nat := 32 * 1024

/-- What a copier is doing. -/
inductive CopierPhase where
  | reading
  /-- the sink is offered these bytes -/
  | writing (left : Bytes)
  | flushing
  | done
  /-- it was stopped before it was done -/
  | stopped
deriving Repr, DecidableEq, Inhabited

structure Copier where
  /-- the stream that is copied -/
  stream : StreamName
  /-- how many of the last bytes are kept -/
  limit : Nat
  phase : CopierPhase := .reading
  /-- the last bytes read -/
  captured : Queue := .empty
  /-- whether the sink has not failed yet -/
  sinkOk : Bool := true
  /-- what the sink has taken -/
  taken : Tape := .empty
  /-- how much of that has been flushed -/
  flushed : Nat := 0
deriving Repr, DecidableEq, Inhabited

/-- What happens to a copier. -/
inductive CopierEvent where
  | read (bytes : Bytes)
  | pipeEnds
  | pipeFails (error : SystemError)
  | sink (reply : SinkReply)
  | flushed
  | flushFails (error : SystemError)
  | stop
deriving Repr, DecidableEq, Inhabited

/-- Adds bytes to those that are kept, and forgets the first ones beyond the limit. -/
def keepTail (limit : Nat) (kept : Queue) (more : Bytes) : Queue :=
  if limit = 0 then kept
  else
    let all := kept.append more
    if limit < all.length then (all.split (all.length - limit)).2 else all

theorem bytes_keepTail {limit : Nat} (h : limit ≠ 0) (kept : Queue) (more : Bytes) :
    (keepTail limit kept more).bytes =
      (kept.bytes ++ more).drop ((kept.bytes ++ more).length - limit) := by
  have length : (kept.append more).length = (kept.bytes ++ more).length := by simp [Queue.append]
  simp only [keepTail, h, if_false]
  split
  · rw [Queue.bytes_split, Queue.bytes_append, length]
  · rename_i room
    rw [Nat.sub_eq_zero_of_le (by omega)]
    simp

namespace Copier

/-- Whether the copier has come to its end. -/
def isDone (c : Copier) : Bool := c.phase = .done

/-- Whether the copier will do nothing more. -/
def isOver (c : Copier) : Bool := c.phase = .done || c.phase = .stopped

/-- What has come through a sink that by itself passes on so many of the bytes that it has taken,
and the others only when it is flushed. -/
def shown (c : Copier) (passes : Bytes → Nat) : Bytes :=
  c.taken.bytes.take (max c.flushed (passes c.taken.bytes))

/-- Goes on when the pipe has ended or broken. -/
def leavePipe (c : Copier) : Copier :=
  { c with phase := if c.sinkOk then .flushing else .done }

/-- Gives up the sink. -/
def loseSink (c : Copier) : Copier := { c with phase := .reading, sinkOk := false }

def fault (c : Copier) (e : SystemError) : Fault := .streamCopy c.stream e

/-- The copier after an event, and the faults it reports then, if the event may happen. -/
def step (c : Copier) (event : CopierEvent) : Option (Copier × List Fault) :=
  match c.phase, event with
  | .reading, .read bytes =>
    if bytes.isEmpty || copyPiece < bytes.length then none
    else some ({ c with
      captured := keepTail c.limit c.captured bytes
      phase := if c.sinkOk then .writing bytes else .reading }, [])
  | .reading, .pipeEnds => some (c.leavePipe, [])
  | .reading, .pipeFails e => some (c.leavePipe, [c.fault e])
  | .writing left, .sink (.takes n) =>
    if n = 0 then some (c.loseSink, [c.fault (.bare .writeZero)])
    else if n < left.length then some ({ c with
      taken := c.taken.append (left.take n), phase := .writing (left.drop n) }, [])
    else if n = left.length then some ({ c with
      taken := c.taken.append left, phase := .reading }, [])
    else none
  | .writing _, .sink .notReady => some (c, [])
  | .writing _, .sink (.fails e) => some (c.loseSink, [c.fault e])
  | .flushing, .flushed => some ({ c with phase := .done, flushed := c.taken.length }, [])
  | .flushing, .flushFails e => some ({ c with phase := .done }, [c.fault e])
  | .flushing, .sink .notReady => some (c, [])
  | .done, _ | .stopped, _ => none
  | _, .stop => some ({ c with phase := .stopped }, [])
  | _, _ => none

/-- The copier after events, and the faults it reports on the way. -/
def run (c : Copier) : List CopierEvent → Option (Copier × List Fault)
  | [] => some (c, [])
  | e :: rest => do
    let (c, faults) ← c.step e
    let (c, more) ← c.run rest
    return (c, faults ++ more)

end Copier

end GitSteward
