-- The tail of an output. A copier keeps the last of the bytes that it has read, as many as its
-- limit allows, whatever pieces they came in and whatever the sink made of them.
import GitSteward.Proofs.Copier.Course

namespace GitSteward

theorem lastBytes_suffix (limit : Nat) (bytes : Bytes) : lastBytes limit bytes <:+ bytes :=
  List.drop_suffix _ _

@[simp] theorem length_lastBytes (limit : Nat) (bytes : Bytes) :
    (lastBytes limit bytes).length = min limit bytes.length := by
  rw [lastBytes, List.length_drop]
  omega

/-- All that has been read in some events. -/
def readIn (events : List CopierEvent) : Bytes := events.flatMap CopierEvent.bytesRead

namespace Copier

variable {c c' last : Copier} {event : CopierEvent} {events : List CopierEvent}
  {faults more : List Fault} {got : Bytes}

/-! ## Runs -/

theorem run_concat (hrun : c.run events = some (c', faults))
    (hstep : c'.step event = some (last, more)) :
    c.run (events ++ [event]) = some (last, faults ++ more) := by
  induction events generalizing c faults with
  | nil =>
    cases hrun
    simp [run, hstep]
  | cons first rest ih =>
    simp only [run, Option.bind_eq_bind, Option.bind_eq_some_iff] at hrun
    obtain ⟨⟨c₁, now⟩, hfirst, ⟨c₂, later⟩, hrest, hsame⟩ := hrun
    cases hsame
    simp [run, hfirst, ih hrest]

/-- A run keeps the books, with all that is read in it. -/
theorem books_of_run (hrun : c.run events = some (last, faults)) (h : Books c got) :
    Books last (got ++ readIn events) ∧ last.limit = c.limit := by
  induction events generalizing c got faults with
  | nil =>
    cases hrun
    simpa [readIn] using h
  | cons event rest ih =>
    simp only [run, Option.bind_eq_bind, Option.bind_eq_some_iff] at hrun
    obtain ⟨⟨c', now⟩, hstep, ⟨last', later⟩, hrest, hsame⟩ := hrun
    cases hsame
    have turn := turn_of_step hstep
    obtain ⟨books, limit⟩ := ih hrest (turn.books h)
    refine ⟨?_, limit.trans turn.same.2⟩
    simpa [readIn, List.append_assoc] using books

/-- The bytes that a fresh copier has kept after a run. -/
theorem captured_of_run {stream : StreamName} {limit : Nat}
    (hrun : run { stream, limit } events = some (last, faults)) :
    last.captured.bytes = lastBytes limit (readIn events) := by
  obtain ⟨books, hlimit⟩ := books_of_run hrun (books_fresh stream limit)
  simpa [hlimit] using books.captured

/-- The bytes that a fresh copier has kept when a script has been played. -/
theorem captured_forward (stream : StreamName) (limit : Nat) (s : CopierScript) :
    (forward { stream, limit } s).1.captured.bytes = lastBytes limit s.bytes := by
  have hread : readIn (course { stream, limit } s) = s.bytes := by
    rw [readIn, ← bytesRead_filter, filter_course]
    exact s.bytesRead_fromPipe
  rw [captured_of_run (run_course _ s), hread]

/-! ## What is forgotten -/

/-- What is pushed out by a piece is what there is over the limit. -/
theorem forgotten_lastBytes (limit : Nat) (got piece : Bytes) :
    ∃ forgotten, lastBytes limit got ++ piece = forgotten ++ lastBytes limit (got ++ piece) ∧
      (forgotten.length : Int) =
        max 0 (((lastBytes limit got).length : Int) + piece.length - limit) := by
  have hkept := (lastBytes_suffix limit (lastBytes limit got ++ piece))
  rw [lastBytes_append] at hkept
  obtain ⟨forgotten, hsplit⟩ := hkept
  refine ⟨forgotten, hsplit.symm, ?_⟩
  have hlength := congrArg List.length hsplit
  simp only [List.length_append, length_lastBytes] at hlength ⊢
  omega

/-! ## The law -/

/-- What a copier keeps of an output, with some limit. -/
structure KeepsTail (stream : StreamName) (limit : Nat) : Prop where
  /-- whatever has happened, the last of the bytes read so far are kept, and no others -/
  always : ∀ events c faults, run { stream, limit } events = some (c, faults) →
    c.captured.bytes <:+ readIn events ∧
      c.captured.bytes.length = min limit (readIn events).length
  /-- a piece pushes out what there is over the limit then, a count that is never negative -/
  excess : ∀ events c faults piece c' more, run { stream, limit } events = some (c, faults) →
    c.step (.read piece) = some (c', more) →
    ∃ forgotten, c.captured.bytes ++ piece = forgotten ++ c'.captured.bytes ∧
      (forgotten.length : Int) = max 0 ((c.captured.bytes.length : Int) + piece.length - limit)
  /-- whatever the pipe and the sink do, copying comes to its end -/
  returns : ∀ s, (forward { stream, limit } s).1.isDone
  /-- what is kept then is the end of all that the pipe gave, as long as the limit allows -/
  whole : ∀ s, (forward { stream, limit } s).1.captured.bytes <:+ s.bytes ∧
    (forward { stream, limit } s).1.captured.bytes.length = min limit s.bytes.length
  /-- neither the pieces nor the error of the pipe nor the sink make any difference to it -/
  same : ∀ s₁ s₂, s₁.bytes = s₂.bytes →
    (forward { stream, limit } s₁).1.captured.bytes =
      (forward { stream, limit } s₂).1.captured.bytes

theorem the_tail_is_exact (stream : StreamName) (limit : Nat) : KeepsTail stream limit where
  always events c faults hrun := by
    rw [captured_of_run hrun]
    exact ⟨lastBytes_suffix _ _, length_lastBytes _ _⟩
  excess events c faults piece c' more hrun hstep := by
    rw [captured_of_run hrun, captured_of_run (run_concat hrun hstep)]
    simpa [readIn, CopierEvent.bytesRead] using forgotten_lastBytes limit (readIn events) piece
  returns s := isDone_forward _ s nofun
  whole s := by
    rw [captured_forward]
    exact ⟨lastBytes_suffix _ _, length_lastBytes _ _⟩
  same s₁ s₂ hbytes := by rw [captured_forward, captured_forward, hbytes]

-- The sink fails between the two pieces.
example : (run { stream := .stderr, limit := 3 }
    [.read [1, 2], .sink (.fails (.bare .writeZero)), .read [3, 4], .pipeEnds]).map
      (·.1.captured.bytes) = some [2, 3, 4] := by decide

end Copier

end GitSteward
