-- Bytes that wait in order: new ones come in at the back and are taken from the front. The back
-- is kept last to first, so that adding a few bytes to many costs no more than the few.
import GitSteward.Text.Lossy

namespace GitSteward

structure Queue where
  front : Bytes := []
  /-- the bytes that came in since, last to first -/
  back : Bytes := []
  /-- how many bytes there are -/
  length : Nat := 0
  length_eq : length = front.length + back.length := by rfl
deriving Repr, DecidableEq

namespace Queue

def empty : Queue := {}

instance : Inhabited Queue := ⟨empty⟩

/-- The bytes in order. -/
def bytes (q : Queue) : Bytes := q.front ++ q.back.reverse

/-- Whether there are no bytes. -/
def isEmpty (q : Queue) : Bool := q.length = 0

/-- Bytes that have just come in. -/
def ofBytes (bytes : Bytes) : Queue where
  front := bytes
  length := bytes.length

/-- Adds bytes at the back. -/
def append (q : Queue) (more : Bytes) : Queue where
  front := q.front
  back := more.reverseAux q.back
  length := q.length + more.length
  length_eq := by simp [q.length_eq, List.reverseAux_eq]; omega

/-- The first bytes, and what is left without them. The back is turned around only when the front
does not hold enough. -/
def split (q : Queue) (count : Nat) : Bytes × Queue :=
  if h : (q.front.take count).length = count then
    (q.front.take count, {
      front := q.front.drop count
      back := q.back
      length := q.length - count
      length_eq := by simp at h; simp [q.length_eq]; omega })
  else (q.bytes.take count, ofBytes (q.bytes.drop count))

@[simp] theorem bytes_empty : empty.bytes = [] := rfl

@[simp] theorem bytes_ofBytes (bytes : Bytes) : (ofBytes bytes).bytes = bytes := by
  simp [ofBytes, Queue.bytes]

@[simp] theorem length_bytes (q : Queue) : q.bytes.length = q.length := by
  simp [bytes, q.length_eq]

@[simp] theorem bytes_append (q : Queue) (more : Bytes) :
    (q.append more).bytes = q.bytes ++ more := by
  simp [bytes, append, List.reverseAux_eq]

theorem isEmpty_iff {q : Queue} : q.isEmpty = true ↔ q.bytes = [] := by
  rw [← List.length_eq_zero_iff, length_bytes]; simp [isEmpty]

@[simp] theorem split_fst (q : Queue) (count : Nat) : (q.split count).1 = q.bytes.take count := by
  unfold split
  split
  · rename_i h
    have h : count ≤ q.front.length := by simp at h; omega
    exact (List.take_append_of_le_length h).symm
  · rfl

@[simp] theorem bytes_split (q : Queue) (count : Nat) :
    (q.split count).2.bytes = q.bytes.drop count := by
  unfold split
  split
  · rename_i h
    have h : count ≤ q.front.length := by simp at h; omega
    exact (List.drop_append_of_le_length h).symm
  · simp

end Queue

end GitSteward
