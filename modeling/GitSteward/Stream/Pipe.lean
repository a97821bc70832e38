-- A pipe of bounded capacity: bytes wait in it in order, and each side may close its end.
import GitSteward.Stream.Queue

namespace GitSteward

structure Pipe where
  /-- the most bytes that may wait -/
  capacity : Nat := 65536
  /-- the bytes that wait -/
  held : Queue := .empty
  /-- whether more may be written -/
  writerOpen : Bool := true
  /-- whether someone may still read -/
  readerOpen : Bool := true
deriving Repr, DecidableEq, Inhabited

namespace Pipe

/-- How many more bytes there is room for. -/
def room (p : Pipe) : Nat := p.capacity - p.held.length

/-- Whether a reader would see the end. -/
def atEnd (p : Pipe) : Bool := p.held.isEmpty && !p.writerOpen

/-- Writes bytes for which there is room. -/
def write (p : Pipe) (bytes : Bytes) : Option Pipe :=
  if p.writerOpen && p.readerOpen && !bytes.isEmpty && bytes.length ≤ p.room then
    some { p with held := p.held.append bytes }
  else none

/-- Reads so many bytes, at least one, if so many wait. -/
def read (p : Pipe) (count : Nat) : Option (Bytes × Pipe) :=
  if p.readerOpen && 0 < count && count ≤ p.held.length then
    let (bytes, held) := p.held.split count
    some (bytes, { p with held })
  else none

/-- Closes the end that is written to. -/
def closeWriter (p : Pipe) : Pipe := { p with writerOpen := false }

/-- Closes the end that is read from. -/
def closeReader (p : Pipe) : Pipe := { p with readerOpen := false }

end Pipe

end GitSteward
