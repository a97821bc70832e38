-- The laws of sinks that break. A sink that breaks after so many bytes takes just these, however
-- the bytes come in pieces and whenever it hesitates, and the faults that are reported of the line
-- follow from the bytes that come along it. A copier whose sink has broken reads on.
import GitSteward.Proofs.Line

namespace GitSteward

/-- How a sink breaks: after so many bytes with an error, when it is flushed, or not at all. -/
structure Breaking where
  after : Option (Nat × SystemError) := none
  flush : Option SystemError := none
deriving Repr, DecidableEq, Inhabited

namespace Breaking

/-- Whether a sink that breaks like this, and has taken so many bytes, may do this. Taking none
of some bytes is an error as well. -/
def allows (b : Breaking) (taken : Nat) : CopierEvent → Bool
  | .sink (.takes n) =>
    match b.after with
    | some (limit, e) =>
      if taken < limit then 0 < n && taken + n ≤ limit else n = 0 && e = .bare .writeZero
    | none => 0 < n
  | .sink (.fails e) =>
    match b.after with
    | some (limit, e') => limit ≤ taken && e = e'
    | none => false
  | .flushed => b.flush = none
  | .flushFails e => b.flush = some e
  | _ => true

/-- What the sink has taken in the end of the bytes that came along a line, and the faults that
are reported. -/
def outcome (b : Breaking) (s : StreamName) (got : Bytes) (errors : List SystemError) :
    Bytes × List Fault :=
  match b.after with
  | some (limit, e) =>
    if limit < got.length then (got.take limit, (e :: errors).map (.streamCopy s))
    else (got, (errors ++ b.flush.toList).map (.streamCopy s))
  | none => (got, (errors ++ b.flush.toList).map (.streamCopy s))

end Breaking

/-- How many bytes the sink takes. -/
def CopierEvent.takenCount : CopierEvent → Nat
  | .sink (.takes n) => n
  | _ => 0

/-! ## One copier -/

namespace Copier

variable {c c' : Copier} {event : CopierEvent} {faults : List Fault} {b : Breaking}

theorem Turn.taken_length (t : Turn c event c' faults) :
    c'.taken.length = c.taken.length + event.takenCount := by
  cases t with
  | takesSome left n _ _ hlt =>
    simp only [Tape.append, CopierEvent.takenCount, List.length_take]
    omega
  | takesAll left => simp [Tape.append, CopierEvent.takenCount]
  | _ => rfl

/-- What is known of a copier whose sink breaks in a certain way, after it has read some bytes. -/
structure Follows (c : Copier) (b : Breaking) (got : Bytes) (errors : List SystemError)
    (told : List Fault) : Prop where
  within : c.sinkOk → ∀ limit e, b.after = some (limit, e) → c.taken.length ≤ limit
  broken : c.sinkOk = false → ∃ limit e, b.after = some (limit, e) ∧ limit < got.length ∧
    c.taken.bytes = got.take limit ∧ told = (e :: errors).map (.streamCopy c.stream)
  told : c.sinkOk →
    told = (errors ++ if c.phase = .done then b.flush.toList else []).map (.streamCopy c.stream)
  /-- reading fails once -/
  sound : c.phase = .reading ∨ (∃ left, c.phase = .writing left) → errors = []

theorem follows_fresh (b : Breaking) (stream : StreamName) (limit : Nat) :
    Follows { stream, limit } b [] [] [] :=
  ⟨fun _ _ _ _ => Nat.zero_le _, nofun, fun _ => rfl, fun _ => rfl⟩

variable {got : Bytes} {errors : List SystemError} {told : List Fault}

/-- The sink breaks when it has taken all that it ever takes. -/
theorem Follows.breaks (h : Follows c b got errors told) (books : Books c got) {left : Bytes}
    (hp : c.phase = .writing left) {limit : Nat} {e : SystemError}
    (hb : b.after = some (limit, e)) (hle : limit ≤ c.taken.length) :
    Follows c.loseSink b got errors (told ++ [c.fault e]) := by
  obtain ⟨hne, ok⟩ := books.writing left hp
  have hlimit : c.taken.length = limit := Nat.le_antisymm (h.within ok limit e hb) hle
  have hwhole := books.whole ok (by simp [hp])
  simp only [pending, hp] at hwhole
  have herrors := h.sound (.inr ⟨left, hp⟩)
  have htold := h.told ok
  simp only [hp, herrors] at htold
  have hlost : c.loseSink.sinkOk = false := rfl
  refine ⟨?_, fun _ => ⟨limit, e, hb, ?_, ?_, ?_⟩, ?_, fun _ => herrors⟩
  · intro hok
    simp [hlost] at hok
  · have := List.length_pos_iff.mpr hne
    rw [← hwhole, List.length_append, Tape.length_bytes]
    omega
  · rw [← hwhole, ← hlimit, ← Tape.length_bytes, List.take_left]
    rfl
  · simp only [htold, herrors, fault, List.nil_append, List.map_cons, List.map_nil]
    rfl
  · intro hok
    simp [hlost] at hok

theorem Follows.leavePipe (h : Follows c b got errors told) (hp : c.phase = .reading)
    (more : List SystemError) :
    Follows c.leavePipe b got (errors ++ more) (told ++ more.map (.streamCopy c.stream)) := by
  refine ⟨h.within, ?_, ?_, ?_⟩
  · intro hok
    obtain ⟨limit, e, hb, hlt, htaken, htold⟩ := h.broken hok
    exact ⟨limit, e, hb, hlt, htaken, by simp [htold, Copier.leavePipe]⟩
  · intro hok
    have htold := h.told hok
    have hok : c.sinkOk = true := hok
    simp only [hp] at htold
    simp [htold, Copier.leavePipe, hok]
  · intro hl
    by_cases hok : c.sinkOk <;> simp [Copier.leavePipe, hok] at hl

/-- The sink takes some of the bytes on offer, but none beyond its limit. -/
theorem Follows.takes (h : Follows c b got errors told) {left : Bytes} (ok : c.sinkOk)
    (hp : c.phase = .writing left) {n : Nat} (hn : 0 < n)
    (ha : b.allows c.taken.length (.sink (.takes n)))
    (hc : c' = { c with taken := c'.taken, phase := c'.phase })
    (hlength : c'.taken.length = c.taken.length + n) (hd : c'.phase ≠ .done) :
    Follows c' b got errors told := by
  have htold := h.told ok
  simp only [hp] at htold
  rw [hc]
  refine ⟨?_, fun hok => ?_, fun _ => ?_, fun _ => h.sound (.inr ⟨left, hp⟩)⟩
  · intro _ limit e hb
    simp only [Breaking.allows, hb] at ha
    split at ha
    · simp only [Bool.and_eq_true, decide_eq_true_eq] at ha
      simp only [hlength]
      exact ha.2
    · simp only [Bool.and_eq_true, decide_eq_true_eq] at ha
      omega
  · simp [ok] at hok
  · simp only [hd, if_false]
    exact htold

/-- A turn that its sink allows. -/
theorem Turn.follows (t : Turn c event c' faults) (books : Books c got)
    (h : Follows c b got errors told) (ha : b.allows c.taken.length event) :
    Follows c' b (got ++ event.bytesRead) (errors ++ event.pipeError?.toList) (told ++ faults) := by
  have hlength := t.taken_length
  cases t with
  | reads bytes hp _ _ =>
    have herrors := h.sound (.inl hp)
    refine ⟨h.within, ?_, ?_, fun _ => by simp [herrors, CopierEvent.pipeError?]⟩
    · intro hok
      obtain ⟨limit, e, hb, hlt, htaken, htold⟩ := h.broken hok
      refine ⟨limit, e, hb, ?_, ?_, ?_⟩
      · rw [List.length_append]
        omega
      · rw [List.take_append_of_le_length (by omega)]
        exact htaken
      · simp [htold, CopierEvent.pipeError?]
    · intro hok
      have htold := h.told hok
      have hok : c.sinkOk = true := hok
      simp only [hp] at htold
      simp [htold, hok, CopierEvent.pipeError?]
  | pipeEnds hp => simpa [CopierEvent.bytesRead, CopierEvent.pipeError?] using h.leavePipe hp []
  | pipeFails e hp =>
    simpa [CopierEvent.bytesRead, CopierEvent.pipeError?, fault] using h.leavePipe hp [e]
  | sinkFull left hp =>
    simp only [CopierEvent.bytesRead, CopierEvent.pipeError?, Option.toList_none, List.append_nil]
    cases hb : b.after with
    | none => simp [Breaking.allows, hb] at ha
    | some after =>
      obtain ⟨limit, e⟩ := after
      simp only [Breaking.allows, hb] at ha
      split at ha
      · simp at ha
      · obtain rfl : e = .bare .writeZero := by simpa using ha
        exact h.breaks books hp hb (by omega)
  | sinkFails left e hp =>
    simp only [CopierEvent.bytesRead, CopierEvent.pipeError?, Option.toList_none, List.append_nil]
    cases hb : b.after with
    | none => simp [Breaking.allows, hb] at ha
    | some after =>
      obtain ⟨limit, e'⟩ := after
      simp only [Breaking.allows, hb, Bool.and_eq_true, decide_eq_true_eq] at ha
      obtain ⟨hle, rfl⟩ := ha
      exact h.breaks books hp hb hle
  | takesSome left n hp hn hlt =>
    simp only [CopierEvent.bytesRead, CopierEvent.pipeError?, Option.toList_none, List.append_nil]
    exact h.takes (books.writing left hp).2 hp hn ha rfl hlength (by simp)
  | takesAll left hp hne =>
    simp only [CopierEvent.bytesRead, CopierEvent.pipeError?, Option.toList_none, List.append_nil]
    have hn := List.length_pos_iff.mpr hne
    exact h.takes (books.writing left hp).2 hp hn ha rfl hlength (by simp)
  | notReady hp => simpa [CopierEvent.bytesRead, CopierEvent.pipeError?] using h
  | flushed hp =>
    have ok := books.flushing hp
    have htold := h.told ok
    have hflush : b.flush = none := by simpa [Breaking.allows] using ha
    simp only [hp] at htold
    refine ⟨h.within, fun hok => ?_, fun _ => ?_, ?_⟩
    · have hok : c.sinkOk = false := hok
      simp [ok] at hok
    · simp [htold, hflush, CopierEvent.pipeError?]
    · rintro (hl | ⟨_, hl⟩) <;> cases hl
  | flushFails e hp =>
    have ok := books.flushing hp
    have htold := h.told ok
    have hflush : b.flush = some e := by simpa [Breaking.allows] using ha
    simp only [hp] at htold
    refine ⟨h.within, fun hok => ?_, fun _ => ?_, ?_⟩
    · have hok : c.sinkOk = false := hok
      simp [ok] at hok
    · simp [htold, hflush, CopierEvent.pipeError?, fault]
    · rintro (hl | ⟨_, hl⟩) <;> cases hl
  | stops hover =>
    have hdone : c.phase ≠ .done := by
      intro hd
      simp [isOver, hd] at hover
    simp only [CopierEvent.bytesRead, CopierEvent.pipeError?, Option.toList_none, List.append_nil]
    refine ⟨h.within, h.broken, fun hok => ?_, ?_⟩
    · simpa [hdone] using h.told hok
    · rintro (hl | ⟨_, hl⟩) <;> cases hl

/-- What has become of the bytes and which faults have been reported when a copier is done. -/
theorem Follows.outcome (h : Follows c b got errors told) (books : Books c got)
    (hd : c.phase = .done) : (c.taken.bytes, told) = b.outcome c.stream got errors := by
  cases hok : c.sinkOk with
  | false =>
    obtain ⟨limit, e, hb, hlt, htaken, htold⟩ := h.broken hok
    simp [Breaking.outcome, hb, hlt, htaken, htold]
  | true =>
    have htaken := books.whole hok (by simp [hd])
    simp only [pending, hd, List.append_nil] at htaken
    have htold := h.told hok
    simp only [hd, if_true] at htold
    have hlength : got.length = c.taken.length := by rw [← htaken, Tape.length_bytes]
    have hend : b.outcome c.stream got errors =
        (got, (errors ++ b.flush.toList).map (.streamCopy c.stream)) := by
      unfold Breaking.outcome
      split
      · rename_i limit e hb
        have := h.within hok limit e hb
        rw [if_neg (by omega)]
      · rfl
    rw [hend, htaken, htold]

end Copier

/-! ## One line -/

/-- How many bytes the sink takes. -/
def LineMove.takenCount : LineMove → Nat
  | .copier event => event.takenCount
  | _ => 0

namespace Line

variable {l l' : Line} {m : LineMove} {moves : List LineMove} {faults told : List Fault}
variable {b : Breaking} {got : Bytes} {stream : StreamName} {limit capacity : Nat}

/-- How many bytes the sink has taken. -/
def takenCount (moves : List LineMove) : Nat := (moves.map LineMove.takenCount).sum

theorem takenCount_snoc (moves : List LineMove) (m : LineMove) :
    takenCount (moves ++ [m]) = takenCount moves + m.takenCount := by simp [takenCount]

/-- The sink of a line breaks in a certain way, and in no other. -/
def KeepsTo (b : Breaking) (moves : List LineMove) : Prop :=
  ∀ before event after, moves = before ++ .copier event :: after →
    b.allows (takenCount before) event

theorem KeepsTo.of_snoc (h : KeepsTo b (moves ++ [m])) :
    KeepsTo b moves ∧ ∀ event, m = .copier event → b.allows (takenCount moves) event := by
  constructor
  · intro before event after hm
    exact h before event (after ++ [m]) (by simp [hm])
  · rintro event rfl
    exact h moves event [] rfl

theorem Turn.taken_length (t : Turn l m l' faults) :
    l'.copier.taken.length = l.copier.taken.length + m.takenCount := by
  cases t with
  | writes | closes => rfl
  | reads _ _ _ _ _ _ hc | copier _ _ _ _ _ hc => exact hc.taken_length

theorem Turn.follows (t : Turn l m l' faults) (books : Books l moves got)
    (h : l.copier.Follows b got (pipeErrors moves) told)
    (ha : ∀ event, m = .copier event → b.allows l.copier.taken.length event) :
    l'.copier.Follows b (got ++ l.bytesRead m) (pipeErrors (moves ++ [m])) (told ++ faults) := by
  have herrors : pipeErrors (moves ++ [m]) = pipeErrors moves ++ m.pipeError?.toList := by
    cases hm : m.pipeError? <;> simp [pipeErrors, hm]
  rw [herrors]
  cases t with
  | writes | closes => simpa [bytesRead, LineMove.readCount, LineMove.pipeError?] using h
  | reads count bytes pipe copier _ hr hc =>
    obtain ⟨_, _, _, rfl, rfl⟩ := Pipe.read_some hr
    exact hc.follows books.copier h rfl
  | copier event copier _ hb _ hc =>
    have := hc.follows books.copier h (ha event rfl)
    rw [hb] at this
    exact this

/-- A line on which the sink breaks in a certain way, after any moves. -/
theorem follows_of_run (h : (fresh stream limit capacity).run moves = some (l, faults))
    (hk : KeepsTo b moves) : ∃ got, Books l moves got ∧
      l.copier.Follows b got (pipeErrors moves) faults := by
  suffices key : ∃ got, Books l moves got ∧ l.copier.taken.length = takenCount moves ∧
      (KeepsTo b moves → l.copier.Follows b got (pipeErrors moves) faults) by
    obtain ⟨got, books, _, follows⟩ := key
    exact ⟨got, books, follows hk⟩
  refine run_induct (P := fun moves l faults => ∃ got, Books l moves got ∧
    l.copier.taken.length = takenCount moves ∧
    (KeepsTo b moves → l.copier.Follows b got (pipeErrors moves) faults))
    ⟨[], books_fresh stream limit capacity, rfl, fun _ => Copier.follows_fresh b stream limit⟩ ?_ h
  intro moves l faults m l' more ⟨got, books, htaken, follows⟩ t
  refine ⟨got ++ l.bytesRead m, t.books books, ?_, fun hk => ?_⟩
  · rw [t.taken_length, takenCount_snoc, htaken]
  · obtain ⟨before, ha⟩ := hk.of_snoc
    exact t.follows books (follows before) (htaken ▸ ha)

/-- What has come to the sink of a line, and what has been reported, follow from what came along
the line and from the way in which the sink breaks. -/
theorem outcome_of_run (h : (fresh stream limit capacity).run moves = some (l, faults))
    (hd : l.copier.isDone) (hk : KeepsTo b moves) :
    (l.copier.taken.bytes, faults) = b.outcome stream (arrived moves) (pipeErrors moves) := by
  obtain ⟨got, books, follows⟩ := follows_of_run h hk
  have hphase : l.copier.phase = .done := by simpa [Copier.isDone] using hd
  rw [follows.outcome books.copier hphase, (same_of_run h).1, books.got_eq]

/-! ## Two lines -/

/-- The same came along two lines: the same was written, and reading failed in the same places. -/
structure SameBytes (first second : List LineMove) : Prop where
  written : written first = written second
  errors : pipeErrors first = pipeErrors second
  point : pipeErrors first ≠ [] → readCount first = readCount second

theorem arrived_of_done (h : (fresh stream limit capacity).run moves = some (l, faults))
    (hd : l.copier.isDone) (he : pipeErrors moves = []) : arrived moves = written moves := by
  obtain ⟨got, books⟩ := books_of_run h
  rw [← books.got_eq, books.whole hd he]

/-- The copiers of two such lines have read the same when they are done. -/
theorem SameBytes.arrived {first second : List LineMove} {l₁ l₂ : Line} {told₁ told₂ : List Fault}
    {limit₁ limit₂ : Nat} (same : SameBytes first second)
    (h₁ : (fresh stream limit₁ capacity).run first = some (l₁, told₁)) (hd₁ : l₁.copier.isDone)
    (h₂ : (fresh stream limit₂ capacity).run second = some (l₂, told₂)) (hd₂ : l₂.copier.isDone) :
    Line.arrived first = Line.arrived second := by
  by_cases he : pipeErrors first = []
  · rw [arrived_of_done h₁ hd₁ he, arrived_of_done h₂ hd₂ (same.errors ▸ he), same.written]
  · rw [Line.arrived, Line.arrived, same.written, same.point he]

end Line

end GitSteward
