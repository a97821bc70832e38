-- A copier between its two neighbours. The pipe gives one piece after another and then ends or
-- breaks, and the sink answers each time that it is asked. Between them a copier comes to its end
-- by itself, whatever they do, and what it goes through on the way is one of its runs.
import GitSteward.Proofs.Copier
import GitSteward.Proofs.Sink

namespace GitSteward

/-! ## What a copier meets -/

/-- Bytes that a pipe may give at once. -/
structure Piece where
  bytes : Bytes
  ne_nil : bytes ≠ []
  fits : bytes.length ≤ copyPiece

/-- What the pipe and the sink of a copier are going to do. -/
structure CopierScript where
  pieces : List Piece := []
  /-- the error with which reading fails after the pieces, if the pipe does not just end -/
  pipeError? : Option SystemError := none
  /-- what the sink answers to the bytes that it is offered. After these answers it takes all. -/
  answers : List SinkReply := []
  /-- how often the sink is not ready yet when it is flushed -/
  flushWaits : Nat := 0
  /-- the error with which flushing fails, if it does -/
  flushError? : Option SystemError := none

namespace CopierScript

/-- All that the pipe gives. -/
def bytes (s : CopierScript) : Bytes := s.pieces.flatMap (·.bytes)

/-- How the pipe comes to its end. -/
def pipeEnd (s : CopierScript) : CopierEvent :=
  match s.pipeError? with
  | none => .pipeEnds
  | some e => .pipeFails e

/-- Everything that comes from the pipe. -/
def fromPipe (s : CopierScript) : List CopierEvent := s.pieces.map (.read ·.bytes) ++ [s.pipeEnd]

/-- How flushing the sink comes to its end. -/
def flushEnd (s : CopierScript) : CopierEvent :=
  match s.flushError? with
  | none => .flushed
  | some e => .flushFails e

end CopierScript

/-- Whether an event comes from the pipe. -/
def CopierEvent.isFromPipe : CopierEvent → Bool
  | .read _ | .pipeEnds | .pipeFails _ => true
  | _ => false

theorem CopierScript.isFromPipe_pipeEnd (s : CopierScript) : s.pipeEnd.isFromPipe := by
  unfold pipeEnd
  split <;> rfl

theorem CopierScript.bytesRead_pipeEnd (s : CopierScript) : s.pipeEnd.bytesRead = [] := by
  unfold pipeEnd
  split <;> rfl

theorem CopierScript.bytesRead_fromPipe (s : CopierScript) :
    s.fromPipe.flatMap CopierEvent.bytesRead = s.bytes := by
  rw [fromPipe, List.flatMap_append, List.flatMap_map, List.flatMap_singleton,
    s.bytesRead_pipeEnd, List.append_nil]
  rfl

/-- Only what comes from the pipe brings bytes. -/
theorem CopierEvent.bytesRead_eq_nil {event : CopierEvent} (h : event.isFromPipe = false) :
    event.bytesRead = [] := by
  cases event <;> first | rfl | cases h

theorem bytesRead_filter (events : List CopierEvent) :
    (events.filter CopierEvent.isFromPipe).flatMap CopierEvent.bytesRead =
      events.flatMap CopierEvent.bytesRead := by
  induction events with
  | nil => rfl
  | cons event rest ih =>
    rw [List.filter_cons]
    by_cases h : event.isFromPipe
    · simp [h, ih]
    · simp [h, ih, CopierEvent.bytesRead_eq_nil (Bool.eq_false_iff.mpr h)]

namespace Copier

variable {c c' : Copier} {s s' : CopierScript} {event : CopierEvent} {faults : List Fault}

/-- A copier does take each of its turns. -/
theorem Turn.step (t : Turn c event c' faults) : c.step event = some (c', faults) := by
  cases t with
  | reads bytes hp hne hle => simp [Copier.step, hp, hne, hle]
  | pipeEnds hp | pipeFails _ hp | sinkFails _ _ hp | sinkFull _ hp | flushed hp
  | flushFails _ hp => simp [Copier.step, hp]
  | takesSome left n hp hn hlt => simp [Copier.step, hp, hlt, Nat.ne_of_gt hn]
  | takesAll left hp hne => simp [Copier.step, hp, hne]
  | notReady hp => rcases hp with ⟨left, hp⟩ | hp <;> simp [Copier.step, hp]
  | stops hover =>
    unfold isOver at hover
    cases hp : c.phase <;> simp_all [Copier.step]

/-! ## What comes next -/

/-- What happens next to a copier, and what is left of the script after it. -/
def next? (c : Copier) (s : CopierScript) : Option (CopierEvent × CopierScript) :=
  match c.phase with
  | .reading =>
    match s.pieces with
    | piece :: rest => some (.read piece.bytes, { s with pieces := rest })
    | [] => some (s.pipeEnd, s)
  | .writing left =>
    match s.answers with
    | reply :: rest => some (.sink (reply.atMost left.length), { s with answers := rest })
    | [] => some (.sink (.takes left.length), s)
  | .flushing =>
    match s.flushWaits with
    | n + 1 => some (.sink .notReady, { s with flushWaits := n })
    | 0 => some (s.flushEnd, s)
  | .done | .stopped => none

/-- Everything that may come next to a copier, and what is left of the script then. -/
inductive Comes (c : Copier) (s : CopierScript) : CopierEvent → CopierScript → Prop
  | piece (piece : Piece) (rest : List Piece) : c.phase = .reading → s.pieces = piece :: rest →
      Comes c s (.read piece.bytes) { s with pieces := rest }
  | pipeEnd : c.phase = .reading → s.pieces = [] → Comes c s s.pipeEnd s
  | answer (left : Bytes) (reply : SinkReply) (rest : List SinkReply) :
      c.phase = .writing left → s.answers = reply :: rest →
      Comes c s (.sink (reply.atMost left.length)) { s with answers := rest }
  | takesAll (left : Bytes) : c.phase = .writing left → s.answers = [] →
      Comes c s (.sink (.takes left.length)) s
  | waits (n : Nat) : c.phase = .flushing → s.flushWaits = n + 1 →
      Comes c s (.sink .notReady) { s with flushWaits := n }
  | flushEnd : c.phase = .flushing → s.flushWaits = 0 → Comes c s s.flushEnd s

theorem comes_of_next? (h : c.next? s = some (event, s')) : Comes c s event s' := by
  unfold next? at h
  split at h
  · split at h <;> cases h
    · exact .piece _ _ ‹_› ‹_›
    · exact .pipeEnd ‹_› ‹_›
  · split at h <;> cases h
    · exact .answer _ _ _ ‹_› ‹_›
    · exact .takesAll _ ‹_› ‹_›
  · split at h <;> cases h
    · exact .waits _ ‹_› ‹_›
    · exact .flushEnd ‹_› ‹_›
  · cases h
  · cases h

theorem next?_eq_none : c.next? s = none ↔ c.isOver := by
  unfold next? isOver
  split <;> (try split) <;> simp [*]

/-- How many steps a phase is away from the end at most, without the pieces still to be read. -/
def CopierPhase.toGo : CopierPhase → Nat
  | .writing _ => 3
  | .reading => 2
  | .flushing => 1
  | .done | .stopped => 0

/-- How many steps a copier has left at most. A piece that is read takes the copier back to
writing, which is why it counts more than what an answer moves on. -/
def toGo (c : Copier) (s : CopierScript) : Nat :=
  4 * s.pieces.length + s.answers.length + s.flushWaits + CopierPhase.toGo c.phase

theorem toGo_leavePipe_lt : CopierPhase.toGo c.leavePipe.phase < 2 := by
  unfold leavePipe
  by_cases ok : c.sinkOk <;> simp [ok, CopierPhase.toGo]

/-- An answer to bytes that are offered is a turn, and does not take the copier away from its
end. -/
theorem turn_of_answer {left : Bytes} (hp : c.phase = .writing left) (reply : SinkReply) :
    ∃ c' faults, Turn c (.sink (reply.atMost left.length)) c' faults ∧
      CopierPhase.toGo c'.phase ≤ 3 := by
  cases reply with
  | takes count =>
    simp only [SinkReply.atMost]
    generalize hn : min count left.length = n
    by_cases h0 : n = 0
    · subst h0
      exact ⟨_, _, .sinkFull left hp, by simp [loseSink, CopierPhase.toGo]⟩
    · by_cases hlt : n < left.length
      · exact ⟨_, _, .takesSome left n hp (by omega) hlt, by simp [CopierPhase.toGo]⟩
      · have hall : n = left.length := by omega
        subst hall
        exact ⟨_, _, .takesAll left hp (by rintro rfl; simp at h0), by simp [CopierPhase.toGo]⟩
  | notReady => exact ⟨_, _, .notReady (.inl ⟨left, hp⟩), by simp [hp, CopierPhase.toGo]⟩
  | fails e => exact ⟨_, _, .sinkFails left e hp, by simp [loseSink, CopierPhase.toGo]⟩

/-- After the answers of its script a sink takes all that it is offered. -/
theorem turn_of_taking_all {left : Bytes} (hp : c.phase = .writing left) :
    ∃ c' faults, Turn c (.sink (.takes left.length)) c' faults ∧
      CopierPhase.toGo c'.phase < 3 := by
  by_cases h0 : left = []
  · subst h0
    exact ⟨_, _, .sinkFull [] hp, by simp [loseSink, CopierPhase.toGo]⟩
  · exact ⟨_, _, .takesAll left hp h0, by simp [CopierPhase.toGo]⟩

/-- Whatever comes next is a turn that brings the copier nearer to its end. -/
theorem turn_of_next? (h : c.next? s = some (event, s')) :
    ∃ c' faults, Turn c event c' faults ∧ c'.toGo s' < c.toGo s := by
  cases comes_of_next? h with
  | piece piece rest hp hpieces =>
    refine ⟨_, _, .reads piece.bytes hp piece.ne_nil piece.fits, ?_⟩
    -- the copier may be back at writing then, but there is one piece less
    simp only [toGo, hp, hpieces, List.length_cons]
    by_cases ok : c.sinkOk
    · simp only [ok, if_true, CopierPhase.toGo]
      omega
    · simp only [ok, Bool.false_eq_true, if_false, CopierPhase.toGo]
      omega
  | pipeEnd hp _ =>
    have hlt : c.leavePipe.toGo s < c.toGo s := by
      have hphase := toGo_leavePipe_lt (c := c)
      simp only [toGo, hp]
      simp only [CopierPhase.toGo] at hphase ⊢
      omega
    unfold CopierScript.pipeEnd
    split
    · exact ⟨_, _, .pipeEnds hp, hlt⟩
    · exact ⟨_, _, .pipeFails _ hp, hlt⟩
  | answer left reply rest hp hanswers =>
    obtain ⟨c', faults, turn, hle⟩ := turn_of_answer hp reply
    refine ⟨c', faults, turn, ?_⟩
    simp only [toGo, hp, hanswers, List.length_cons]
    simp only [CopierPhase.toGo] at hle ⊢
    omega
  | takesAll left hp _ =>
    obtain ⟨c', faults, turn, hlt⟩ := turn_of_taking_all hp
    refine ⟨c', faults, turn, ?_⟩
    simp only [toGo, hp]
    simp only [CopierPhase.toGo] at hlt ⊢
    omega
  | waits n hp hwaits =>
    refine ⟨_, _, .notReady (.inr hp), ?_⟩
    simp only [toGo, hp, hwaits]
    omega
  | flushEnd hp _ =>
    unfold CopierScript.flushEnd
    split
    · exact ⟨_, _, .flushed hp, by simp [toGo, hp, CopierPhase.toGo]⟩
    · exact ⟨_, _, .flushFails _ hp, by simp [toGo, hp, CopierPhase.toGo]⟩

/-! ## The whole way -/

/-- A copier that meets a script, and the faults it reports on the way. -/
def forward (c : Copier) (s : CopierScript) : Copier × List Fault :=
  match _hnext : c.next? s with
  | none => (c, [])
  | some (event, s') =>
    match _hstep : c.step event with
    | none => (c, [])
    | some (c', faults) => ((c'.forward s').1, faults ++ (c'.forward s').2)
termination_by c.toGo s
decreasing_by
  all_goals
    obtain ⟨_, _, turn, hlt⟩ := turn_of_next? _hnext
    have hsame := turn.step.symm.trans _hstep
    cases hsame
    exact hlt

/-- Everything that happens to a copier that meets a script, in order. -/
def course (c : Copier) (s : CopierScript) : List CopierEvent :=
  match _hnext : c.next? s with
  | none => []
  | some (event, s') =>
    match _hstep : c.step event with
    | none => []
    | some (c', _) => event :: c'.course s'
termination_by c.toGo s
decreasing_by
  all_goals
    obtain ⟨_, _, turn, hlt⟩ := turn_of_next? _hnext
    have hsame := turn.step.symm.trans _hstep
    cases hsame
    exact hlt

/-- A copier that is over does nothing any more. -/
theorem forward_of_over (h : c.isOver) (s : CopierScript) : c.forward s = (c, []) := by
  have hnext := next?_eq_none (s := s).mpr h
  unfold forward
  split
  · rfl
  · simp_all

/-- A copier that is not over takes the turn that comes next. -/
theorem forward_of_turn (hnext : c.next? s = some (event, s')) (t : Turn c event c' faults) :
    c.forward s = ((c'.forward s').1, faults ++ (c'.forward s').2) := by
  have hstep := t.step
  rw [forward]
  split
  · simp_all
  · rename_i event₁ s₁ hnext₁
    obtain ⟨rfl, rfl⟩ : event₁ = event ∧ s₁ = s' := by simp_all
    split
    · simp_all
    · rename_i c₁ faults₁ hstep₁
      obtain ⟨rfl, rfl⟩ : c₁ = c' ∧ faults₁ = faults := by simp_all
      rfl

theorem course_of_over (h : c.isOver) (s : CopierScript) : c.course s = [] := by
  have hnext := next?_eq_none (s := s).mpr h
  unfold course
  split
  · rfl
  · simp_all

theorem course_of_turn (hnext : c.next? s = some (event, s')) (t : Turn c event c' faults) :
    c.course s = event :: c'.course s' := by
  have hstep := t.step
  rw [course]
  split
  · simp_all
  · rename_i event₁ s₁ hnext₁
    obtain ⟨rfl, rfl⟩ : event₁ = event ∧ s₁ = s' := by simp_all
    split
    · simp_all
    · rename_i c₁ faults₁ hstep₁
      obtain ⟨rfl, rfl⟩ : c₁ = c' ∧ faults₁ = faults := by simp_all
      rfl

/-- What holds of a copier that is over, and of one before its turn when it holds after it, holds
of every way to the end. -/
theorem forward_induct {P : Copier → CopierScript → Copier × List Fault → Prop}
    (settled : ∀ c s, c.isOver → P c s (c, []))
    (turn : ∀ c s event s' c' faults last, c.next? s = some (event, s') →
      Turn c event c' faults → P c' s' last → P c s (last.1, faults ++ last.2))
    (c : Copier) (s : CopierScript) : P c s (c.forward s) := by
  cases hnext : c.next? s with
  | none =>
    have hover := next?_eq_none.mp hnext
    rw [forward_of_over hover]
    exact settled c s hover
  | some next =>
    obtain ⟨event, s'⟩ := next
    obtain ⟨c', faults, t, hlt⟩ := turn_of_next? hnext
    rw [forward_of_turn hnext t]
    exact turn c s event s' c' faults _ hnext t (forward_induct settled turn c' s')
termination_by c.toGo s

/-- A copier is not told to stop by what its pipe and its sink do. -/
theorem next?_ne_stop (h : c.next? s = some (event, s')) : event ≠ .stop := by
  cases comes_of_next? h with
  | piece | answer | takesAll | waits => exact nofun
  | pipeEnd => unfold CopierScript.pipeEnd; split <;> exact nofun
  | flushEnd => unfold CopierScript.flushEnd; split <;> exact nofun

/-- Every script is played to its end. -/
theorem isDone_forward (c : Copier) (s : CopierScript) :
    c.phase ≠ .stopped → (c.forward s).1.isDone := by
  refine forward_induct (P := fun c _ last => c.phase ≠ .stopped → last.1.isDone) ?_ ?_ c s
  · intro c _ hover hp
    simpa [isOver, isDone, hp] using hover
  · intro c s event s' c' faults last hnext t ih _
    exact ih fun hs => next?_ne_stop hnext (t.told_to_stop hs)

/-- Whether a copier has not left its pipe yet. -/
def stillReads (c : Copier) : Bool :=
  match c.phase with
  | .reading | .writing _ => true
  | _ => false

/-- What a copier still gets from its pipe. -/
def toCome (c : Copier) (s : CopierScript) : List CopierEvent :=
  if c.stillReads then s.fromPipe else []

theorem stillReads_leavePipe (c : Copier) : c.leavePipe.stillReads = false := by
  unfold leavePipe
  by_cases ok : c.sinkOk <;> simp [ok, stillReads]

/-- What the sink does decides nothing about the pipe. -/
theorem Turn.stillReads_eq (t : Turn c event c' faults) (hpipe : event.isFromPipe = false)
    (hstop : event ≠ .stop) : c'.stillReads = c.stillReads := by
  cases t with
  | reads | pipeEnds | pipeFails => cases hpipe
  | sinkFull _ hp | sinkFails _ _ hp => simp [stillReads, loseSink, hp]
  | takesSome _ _ hp | takesAll _ hp | flushed hp | flushFails _ hp => simp [stillReads, hp]
  | notReady => rfl
  | stops => exact absurd rfl hstop

/-- When the pipe has ended, or reading it has failed, the copier leaves it. -/
theorem Turn.leaves_at_end (t : Turn c event c' faults)
    (h : event = .pipeEnds ∨ ∃ e, event = .pipeFails e) : c'.stillReads = false := by
  rcases h with rfl | ⟨e, rfl⟩ <;> cases t <;> exact c.stillReads_leavePipe

/-- A copier that has left its pipe never comes back to it. -/
theorem Turn.stays_away (t : Turn c event c' faults) (h : c.stillReads = false) :
    c'.stillReads = false := by
  have aside (hpipe : event.isFromPipe = false) (hstop : event ≠ .stop) : c'.stillReads = false :=
    (t.stillReads_eq hpipe hstop).trans h
  cases t with
  | reads _ hp | pipeEnds hp | pipeFails _ hp => simp [stillReads, hp] at h
  | stops => rfl
  | sinkFull | sinkFails | takesSome | takesAll | notReady | flushed | flushFails =>
    exact aside rfl nofun

/-- What comes next is the first thing that the pipe still has to give, or leaves the pipe as it
is. -/
theorem toCome_next? (hnext : c.next? s = some (event, s')) (t : Turn c event c' faults) :
    c.toCome s = [event].filter CopierEvent.isFromPipe ++ c'.toCome s' := by
  -- an event of the sink leaves the copier at the pipe, if it is there, and the pipe as it is
  have aside (hpipe : event.isFromPipe = false) (hsame : s'.fromPipe = s.fromPipe) :
      c.toCome s = [event].filter CopierEvent.isFromPipe ++ c'.toCome s' := by
    simp [toCome, t.stillReads_eq hpipe (next?_ne_stop hnext), hpipe, hsame]
  have hcomes := comes_of_next? hnext
  cases hcomes with
  | piece piece rest hp hpieces =>
    have hpipe : s.fromPipe = .read piece.bytes :: { s with pieces := rest }.fromPipe := by
      simp [CopierScript.fromPipe, CopierScript.pipeEnd, hpieces]
    have hstill : c'.stillReads := by
      cases t with
      | reads => by_cases ok : c.sinkOk <;> simp [stillReads, ok]
    have hstill₀ : c.stillReads := by simp [stillReads, hp]
    simp only [toCome, hstill₀, hstill, if_true, hpipe]
    rfl
  | pipeEnd hp hpieces =>
    have hleft : c'.stillReads = false := by
      unfold CopierScript.pipeEnd at t
      split at t <;> cases t <;> exact c.stillReads_leavePipe
    have hstill₀ : c.stillReads := by simp [stillReads, hp]
    simp [toCome, hstill₀, hleft, CopierScript.fromPipe, hpieces, s.isFromPipe_pipeEnd]
  | answer | takesAll | waits => exact aside rfl rfl
  | flushEnd => exact aside (by unfold CopierScript.flushEnd; split <;> rfl) rfl

/-- The whole way is a run. -/
theorem run_course (c : Copier) (s : CopierScript) : c.run (c.course s) = some (c.forward s) := by
  refine forward_induct (P := fun c s last => c.run (c.course s) = some last) ?_ ?_ c s
  · intro c s hover
    rw [course_of_over hover]
    rfl
  · intro c s event s' c' faults last hnext t hrun
    rw [course_of_turn hnext t]
    simp [run, t.step, hrun]

/-- All that the pipe gives comes on the way, and nothing else comes from the pipe. -/
theorem filter_course (c : Copier) (s : CopierScript) :
    (c.course s).filter CopierEvent.isFromPipe = c.toCome s := by
  refine forward_induct (P := fun c s _ =>
    (c.course s).filter CopierEvent.isFromPipe = c.toCome s) ?_ ?_ c s
  · intro c s hover
    have hleft : c.stillReads = false := by
      unfold isOver at hover
      unfold stillReads
      split <;> simp_all
    simp [course_of_over hover, toCome, hleft]
  · intro c s event s' c' faults last hnext t hpipe
    rw [course_of_turn hnext t, toCome_next? hnext t, ← hpipe, ← List.filter_append]
    rfl

end Copier

end GitSteward
