-- The laws of one copier: what it has done so far with the bytes that it has read. The last of
-- them are kept, and a sink that has not failed has taken all of them but those on offer.
-- Flushing comes after the last byte, never before.
import GitSteward.Call.Copier

namespace GitSteward

/-! ## The last bytes -/

/-- The last bytes of some, so many at most. -/
def lastBytes (limit : Nat) (bytes : Bytes) : Bytes := bytes.drop (bytes.length - limit)

theorem lastBytes_append (limit : Nat) (a b : Bytes) :
    lastBytes limit (lastBytes limit a ++ b) = lastBytes limit (a ++ b) := by
  unfold lastBytes
  have hcut : (a.drop (a.length - limit)) ++ b = (a ++ b).drop (a.length - limit) := by
    rw [List.drop_append_of_le_length (by omega)]
  rw [hcut, List.drop_drop]
  congr 1
  simp only [List.length_drop, List.length_append]
  omega

theorem bytes_keepTail_lastBytes {limit : Nat} {kept : Queue} {got : Bytes}
    (h : kept.bytes = lastBytes limit got) (more : Bytes) :
    (keepTail limit kept more).bytes = lastBytes limit (got ++ more) := by
  by_cases h0 : limit = 0
  · subst h0
    simp [keepTail, h, lastBytes]
  · rw [bytes_keepTail h0, h, ← lastBytes_append]
    rfl

/-- The bytes that an event brings into the copier. -/
def CopierEvent.bytesRead : CopierEvent → Bytes
  | .read bytes => bytes
  | _ => []

/-- The error with which reading the pipe fails. -/
def CopierEvent.pipeError? : CopierEvent → Option SystemError
  | .pipeFails e => some e
  | _ => none

/-- Whether an event is none of the failures of a pipe or of a sink. -/
def CopierEvent.isSmooth : CopierEvent → Bool
  | .pipeFails _ | .flushFails _ | .sink (.fails _) | .sink (.takes 0) => false
  | _ => true

namespace Copier

variable {c c' : Copier} {event : CopierEvent} {faults : List Fault}

/-! ## What a copier may do -/

/-- Everything that a copier may do in one step. -/
inductive Turn (c : Copier) : CopierEvent → Copier → List Fault → Prop
  | reads (bytes : Bytes) : c.phase = .reading → bytes ≠ [] → bytes.length ≤ copyPiece →
      Turn c (.read bytes)
        { c with
          captured := keepTail c.limit c.captured bytes
          phase := if c.sinkOk then .writing bytes else .reading } []
  | pipeEnds : c.phase = .reading → Turn c .pipeEnds c.leavePipe []
  | pipeFails (e : SystemError) : c.phase = .reading → Turn c (.pipeFails e) c.leavePipe [c.fault e]
  | sinkFull (left : Bytes) : c.phase = .writing left →
      Turn c (.sink (.takes 0)) c.loseSink [c.fault (.bare .writeZero)]
  | takesSome (left : Bytes) (n : Nat) : c.phase = .writing left → 0 < n → n < left.length →
      Turn c (.sink (.takes n))
        { c with taken := c.taken.append (left.take n), phase := .writing (left.drop n) } []
  | takesAll (left : Bytes) : c.phase = .writing left → left ≠ [] →
      Turn c (.sink (.takes left.length))
        { c with taken := c.taken.append left, phase := .reading } []
  | notReady : (∃ left, c.phase = .writing left) ∨ c.phase = .flushing →
      Turn c (.sink .notReady) c []
  | sinkFails (left : Bytes) (e : SystemError) : c.phase = .writing left →
      Turn c (.sink (.fails e)) c.loseSink [c.fault e]
  | flushed : c.phase = .flushing →
      Turn c .flushed { c with phase := .done, flushed := c.taken.length } []
  | flushFails (e : SystemError) : c.phase = .flushing →
      Turn c (.flushFails e) { c with phase := .done } [c.fault e]
  | stops : c.isOver = false → Turn c .stop { c with phase := .stopped } []

theorem turn_of_step (h : c.step event = some (c', faults)) : Turn c event c' faults := by
  unfold step at h
  split at h
  all_goals try cases h
  · rename_i bytes hp
    split at h
    · cases h
    · rename_i hb
      cases h
      simp only [Bool.or_eq_true, decide_eq_true_eq, not_or, List.isEmpty_iff] at hb
      exact .reads bytes hp hb.1 (by omega)
  · exact .pipeEnds ‹_›
  · exact .pipeFails _ ‹_›
  · rename_i left n hp
    split at h
    · rename_i h0
      cases h
      subst h0
      exact .sinkFull left hp
    · split at h
      · cases h
        exact .takesSome left n hp (by omega) ‹_›
      · split at h
        · rename_i h0 _ hn
          cases h
          subst hn
          exact .takesAll left hp (by rintro rfl; simp at h0)
        · cases h
  · exact .notReady (.inl ⟨_, ‹_›⟩)
  · exact .sinkFails _ _ ‹_›
  · exact .flushed ‹_›
  · exact .flushFails _ ‹_›
  · exact .notReady (.inr ‹_›)
  · exact .stops (by simp_all [isOver])

/-- A copier that is over takes no turn. -/
theorem Turn.not_over (h : Turn c event c' faults) : c.isOver = false := by
  cases h with
  | notReady h => rcases h with ⟨left, hp⟩ | hp <;> simp [isOver, hp]
  | stops h => exact h
  | reads _ hp | pipeEnds hp | pipeFails _ hp | sinkFull _ hp | takesSome _ _ hp | takesAll _ hp
  | sinkFails _ _ hp | flushed hp | flushFails _ hp => simp [isOver, hp]

/-- A copier that reads goes on. -/
theorem Turn.reads_on {bytes : Bytes} (h : Turn c (.read bytes) c' faults) : c'.isOver = false := by
  cases h with
  | reads _ hp =>
    by_cases ok : c.sinkOk <;> simp [isOver, ok]

/-- A copier leaves its pipe only when that ends or when reading it fails. -/
theorem Turn.leaves (h : Turn c event c' faults) (hl : c'.phase = .flushing ∨ c'.phase = .done) :
    c.phase = .flushing ∨ event = .pipeEnds ∨ ∃ e, event = .pipeFails e := by
  cases h with
  | reads _ hp =>
    by_cases ok : c.sinkOk <;> simp [ok] at hl
  | pipeEnds => exact .inr (.inl rfl)
  | pipeFails e => exact .inr (.inr ⟨e, rfl⟩)
  | sinkFull | sinkFails => simp [loseSink] at hl
  | takesSome | takesAll | stops => simp at hl
  | notReady hp =>
    rcases hp with ⟨left, hp⟩ | hp
    · simp [hp] at hl
    · exact .inl hp
  | flushed hp | flushFails _ hp => exact .inl hp

/-- A copier stops only when it is told to. -/
theorem Turn.told_to_stop (h : Turn c event c' faults) (hs : c'.phase = .stopped) :
    event = .stop := by
  cases h with
  | reads _ hp =>
    by_cases ok : c.sinkOk <;> simp [ok] at hs
  | pipeEnds | pipeFails =>
    by_cases ok : c.sinkOk <;> simp [leavePipe, ok] at hs
  | sinkFull | sinkFails => simp [loseSink] at hs
  | takesSome | takesAll | flushed | flushFails => simp at hs
  | notReady hp =>
    rcases hp with ⟨left, hp⟩ | hp <;> simp [hp] at hs
  | stops => rfl

/-- A turn changes neither the stream nor the number of bytes that are kept. -/
theorem Turn.same (h : Turn c event c' faults) : c'.stream = c.stream ∧ c'.limit = c.limit := by
  cases h <;> exact ⟨rfl, rfl⟩

/-- Every fault that a copier reports names the stream that it copies. -/
theorem Turn.faults_name (h : Turn c event c' faults) :
    ∀ f ∈ faults, ∃ e, f = .streamCopy c.stream e := by
  cases h <;> simp [fault]

/-! ## Where the bytes are -/

/-- The bytes that have been read and that the sink has not taken yet. -/
def pending (c : Copier) : Bytes :=
  match c.phase with
  | .writing left => left
  | _ => []

/-- The books of a copier that has read some bytes. -/
structure Books (c : Copier) (got : Bytes) : Prop where
  captured : c.captured.bytes = lastBytes c.limit got
  taken : c.taken.bytes <+: got
  /-- a sink that has not failed has taken all but the bytes on offer -/
  whole : c.sinkOk → c.phase ≠ .stopped → c.taken.bytes ++ c.pending = got
  writing : ∀ left, c.phase = .writing left → left ≠ [] ∧ c.sinkOk
  flushing : c.phase = .flushing → c.sinkOk
  /-- nothing is flushed before the end -/
  unflushed : c.phase ≠ .done → c.flushed = 0

theorem books_fresh (stream : StreamName) (limit : Nat) :
    Books { stream, limit } [] := by
  refine ⟨by simp [lastBytes], by simp, ?_, ?_, ?_, ?_⟩
  · intro _ _; rfl
  · intro left h; cases h
  · intro h; cases h
  · intro _; rfl

theorem Books.loseSink {got : Bytes} (h : Books c got) (hp : c.phase ≠ .done) :
    Books c.loseSink got :=
  ⟨h.captured, h.taken, by simp [Copier.loseSink], by simp [Copier.loseSink],
    by simp [Copier.loseSink], fun _ => h.unflushed hp⟩

theorem Books.leavePipe {got : Bytes} (h : Books c got) (hp : c.phase = .reading) :
    Books c.leavePipe got := by
  refine ⟨h.captured, h.taken, ?_, ?_, ?_, fun _ => h.unflushed (by simp [hp])⟩
  · intro ok _
    have hw := h.whole ok (by simp [hp])
    simp only [pending, hp] at hw
    have hpend : c.leavePipe.pending = [] := by
      simp only [pending, Copier.leavePipe]
      by_cases hok : c.sinkOk <;> simp [hok]
    rw [hpend]
    exact hw
  · intro left hl
    simp only [Copier.leavePipe] at hl
    split at hl <;> cases hl
  · intro hf
    simp only [Copier.leavePipe] at hf
    split at hf
    · assumption
    · cases hf

/-- A turn keeps the books, with the bytes that it reads. -/
theorem Turn.books {got : Bytes} (t : Turn c event c' faults) (h : Books c got) :
    Books c' (got ++ event.bytesRead) := by
  cases t with
  | reads bytes hp hne _ =>
    refine ⟨bytes_keepTail_lastBytes h.captured bytes, h.taken.trans (List.prefix_append _ _),
      ?_, ?_, ?_, fun _ => h.unflushed (by simp [hp])⟩
    · intro ok _
      have hw := h.whole ok (by simp [hp])
      simp only [pending, hp, List.append_nil] at hw
      simp only at ok
      simp [pending, ok, hw, CopierEvent.bytesRead]
    · intro left hl
      simp only at hl
      split at hl
      · cases hl
        exact ⟨hne, ‹_›⟩
      · cases hl
    · intro hf
      simp only at hf
      split at hf <;> cases hf
  | pipeEnds hp | pipeFails _ hp => simpa [CopierEvent.bytesRead] using h.leavePipe hp
  | sinkFull _ hp | sinkFails _ _ hp =>
    simpa [CopierEvent.bytesRead] using h.loseSink (by simp [hp])
  | takesSome left n hp hn hlt =>
    obtain ⟨_, ok⟩ := h.writing left hp
    have hw := h.whole ok (by simp [hp])
    simp only [pending, hp] at hw
    have hwhole : (c.taken.bytes ++ left.take n) ++ left.drop n = got := by
      rw [List.append_assoc, List.take_append_drop]
      exact hw
    simp only [CopierEvent.bytesRead, List.append_nil]
    refine ⟨h.captured, ?_, ?_, ?_, ?_, fun _ => h.unflushed (by simp [hp])⟩
    · rw [Tape.bytes_append, ← hwhole]
      exact List.prefix_append _ _
    · intro _ _
      rw [Tape.bytes_append]
      exact hwhole
    · intro left' hl
      cases hl
      exact ⟨by simpa using hlt, ok⟩
    · intro hf; cases hf
  | takesAll left hp hne =>
    obtain ⟨_, ok⟩ := h.writing left hp
    have hw := h.whole ok (by simp [hp])
    simp only [pending, hp] at hw
    simp only [CopierEvent.bytesRead, List.append_nil]
    refine ⟨h.captured, ?_, ?_, ?_, ?_, fun _ => h.unflushed (by simp [hp])⟩
    · simp only [Tape.bytes_append, hw, List.prefix_rfl]
    · intro _ _
      simp only [Tape.bytes_append, pending, List.append_nil]
      exact hw
    · intro left' hl; cases hl
    · intro hf; cases hf
  | notReady _ => simpa [CopierEvent.bytesRead] using h
  | flushed hp | flushFails _ hp =>
    have hw := h.whole (h.flushing hp) (by simp [hp])
    simp only [pending, hp] at hw
    simp only [CopierEvent.bytesRead, List.append_nil]
    refine ⟨h.captured, h.taken, fun _ _ => hw, ?_, ?_, fun hd => absurd rfl hd⟩
    · intro left hl; cases hl
    · intro hf; cases hf
  | stops hover =>
    simp only [CopierEvent.bytesRead, List.append_nil]
    refine ⟨h.captured, h.taken, fun _ hs => absurd rfl hs, ?_, ?_, ?_⟩
    · intro left hl; cases hl
    · intro hf; cases hf
    · intro _
      exact h.unflushed (by rintro hd; simp [isOver, hd] at hover)

/-! ## Without failures -/

/-- A sink that has not failed, and has been flushed if the copier is done. -/
structure Smooth (c : Copier) : Prop where
  ok : c.sinkOk
  flushed : c.phase = .done → c.flushed = c.taken.length

theorem Turn.smooth (t : Turn c event c' faults) (h : Smooth c) (hs : event.isSmooth) :
    Smooth c' := by
  have hnd : c.phase ≠ .done := by
    intro hd
    have := t.not_over
    simp [isOver, hd] at this
  cases t with
  | reads bytes hp _ _ =>
    refine ⟨h.ok, fun hd => ?_⟩
    simp [h.ok] at hd
  | pipeEnds hp =>
    refine ⟨h.ok, fun hd => ?_⟩
    simp [leavePipe, h.ok] at hd
  | takesSome | takesAll | stops => exact ⟨h.ok, nofun⟩
  | notReady _ => exact h
  | flushed _ => exact ⟨h.ok, fun _ => rfl⟩
  | pipeFails | sinkFull | sinkFails | flushFails => simp [CopierEvent.isSmooth] at hs

end Copier

end GitSteward
