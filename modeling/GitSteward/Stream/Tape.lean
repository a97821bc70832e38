-- Bytes that are collected in order. New bytes are put on one end only, so they are kept last
-- to first and adding some costs no more than there are of them. How many there are is kept
-- beside them, so that asking for it costs nothing.
import GitSteward.Text.Lossy

namespace GitSteward

/-- Bytes collected so far. -/
structure Tape where
  /-- the bytes, last to first -/
  reversed : Bytes := []
  /-- how many bytes there are -/
  length : Nat := 0
  length_eq : length = reversed.length := by rfl
deriving Repr, DecidableEq

namespace Tape

def empty : Tape where
  length_eq := List.length_nil.symm

instance : Inhabited Tape := ⟨empty⟩

/-- The bytes in order. -/
def bytes (t : Tape) : Bytes := t.reversed.reverse

/-- Adds bytes at the end. -/
def append (t : Tape) (more : Bytes) : Tape where
  reversed := more.reverseAux t.reversed
  length := t.length + more.length
  length_eq := by simp [t.length_eq, List.reverseAux_eq]; omega

@[simp] theorem bytes_empty : empty.bytes = [] := rfl

@[simp] theorem bytes_append (t : Tape) (more : Bytes) :
    (t.append more).bytes = t.bytes ++ more := by
  simp [bytes, append, List.reverseAux_eq]

@[simp] theorem length_bytes (t : Tape) : t.bytes.length = t.length := by
  simp [bytes, t.length_eq]

end Tape

end GitSteward
