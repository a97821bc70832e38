-- Where the output of a request goes to. A sink may take bytes in small pieces, be slow, or
-- break.
import GitSteward.Fault

namespace GitSteward

/-- How a sink answers bytes that it is offered. -/
inductive SinkReply where
  /-- takes so many of them. Taking none of some is how a sink says that it is full. -/
  | takes (count : Nat)
  /-- is to be asked again -/
  | notReady
  | fails (error : SystemError)
deriving Repr, DecidableEq, Inhabited

/-- A sink that keeps what it takes, and the ways in which it may be awkward. -/
structure Sink where
  /-- the most bytes that are taken at once -/
  portion : Option Nat := none
  /-- whether it is not ready at first, each other time -/
  hesitates : Bool := false
  /-- how many bytes are taken before it breaks, and the error from then on -/
  breaksAfter : Option (Nat × SystemError) := none
  /-- how many bytes it has room for -/
  capacity : Option Nat := none
  /-- the error of flushing -/
  flushError : Option SystemError := none
deriving Repr, DecidableEq, Inhabited

namespace Sink

/-- How many more bytes are taken at once by a sink that holds so many already. -/
def room (s : Sink) (held offered : Nat) : Nat :=
  min (min offered (s.portion.getD offered))
    (min ((s.breaksAfter.map (·.1 - held)).getD offered) ((s.capacity.map (· - held)).getD offered))

/-- The answer to so many bytes, by a sink that is ready and holds so many already. -/
def reply (s : Sink) (held offered : Nat) : SinkReply :=
  match s.breaksAfter with
  | some (limit, e) => if limit ≤ held then .fails e else .takes (s.room held offered)
  | none => .takes (s.room held offered)

end Sink

end GitSteward
