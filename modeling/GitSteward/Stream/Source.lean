-- Where the input of a request comes from.
import GitSteward.Fault

namespace GitSteward

/-- What follows the last byte of a source. -/
inductive SourceEnd where
  | ended
  | fails (error : SystemError)
  /-- nothing ever comes -/
  | idle
deriving Repr, DecidableEq, Inhabited

/-- A source: what it holds and how it hands that out. -/
structure Source where
  data : Bytes := []
  /-- the most bytes that are handed out at once -/
  portion : Option Nat := none
  ending : SourceEnd := .ended
deriving Repr, DecidableEq, Inhabited

/-- What a source has for one who can take so many bytes, and the source after that. One that
hands out nothing is taken to have ended. -/
def Source.next (s : Source) (room : Nat) : Except SourceEnd Bytes × Source :=
  match s.data, min room (s.portion.getD room) with
  | [], _ => (.error s.ending, s)
  | _, 0 => (.error .ended, s)
  | data, n => (.ok (data.take n), { s with data := data.drop n })

end GitSteward
