-- No call gets stuck on its pipes. A process that waits for room in a pipe is relieved by the
-- copier of that pipe, whatever has become of the sink, and nothing waits for the feeder. Only a
-- copier that could not read its pipe leaves the process waiting, until it lets go of the pipe.
import GitSteward.Proofs.Call.Outputs
import GitSteward.Proofs.Copier.Course

namespace GitSteward

/-- Whether an answer of a sink settles what becomes of the bytes that it was offered: all are
taken, or the sink has failed. -/
def SinkReply.settles (left : Bytes) : SinkReply → Bool
  | .takes n => n = 0 || n = left.length
  | .notReady => false
  | .fails _ => true

/-- Whether a move takes a copier away from its pipe, which has ended or could not be read. -/
def LineMove.leaves : LineMove → Bool
  | .copier .pipeEnds | .copier (.pipeFails _) => true
  | _ => false

/-! ## One line -/

namespace Line

variable {l l' : Line} {moves : List LineMove} {faults : List Fault}

/-- A copier that is reading takes whatever waits, a piece at a time. -/
theorem reads_next {count : Nat} (hopen : l.pipe.readerOpen) (hp : l.copier.phase = .reading)
    (h0 : 0 < count) (hheld : count ≤ l.pipe.held.length) (hpiece : count ≤ copyPiece) :
    (l.step (.reads count)).isSome := by
  have hlen : (l.pipe.held.bytes.take count).length = count := by simp [hheld]
  have hread : (l.copier.step (.read (l.pipe.held.bytes.take count))).isSome := by
    have hne : (l.pipe.held.bytes.take count).isEmpty = false := by
      rw [List.isEmpty_eq_false_iff, ← List.length_pos_iff, hlen]
      exact h0
    have hsmall : ¬ copyPiece < (l.pipe.held.bytes.take count).length := by omega
    simp only [Copier.step, hp, hne, hsmall, decide_false, Bool.or_self, Bool.false_eq_true,
      if_false, Option.isSome_some]
  obtain ⟨⟨copier, faults⟩, hstep⟩ := Option.isSome_iff_exists.mp hread
  simp only [Line.step, Pipe.read_of_le hopen h0 hheld, Option.bind_eq_bind, Option.bind_some,
    hstep]
  rfl

/-- When the sink has settled what becomes of the bytes on offer, the copier reads again. -/
theorem settled_next {left : Bytes} {reply : SinkReply} (hp : l.copier.phase = .writing left)
    (hs : reply.settles left) :
    ∃ l' faults, l.step (.copier (.sink reply)) = some (l', faults) ∧ l'.pipe = l.pipe ∧
      l'.copier.phase = .reading := by
  cases reply with
  | notReady => cases hs
  | fails e => simp [Line.step, tell, Copier.step, hp, Copier.loseSink, Copier.isOver]
  | takes n =>
    by_cases h0 : n = 0
    · simp [Line.step, tell, Copier.step, hp, h0, Copier.loseSink, Copier.isOver]
    · have hn : n = left.length := by simpa [SinkReply.settles, h0] using hs
      simp [Line.step, tell, Copier.step, hp, hn ▸ h0, hn, Copier.isOver]

/-- After the flush the copier lets go of the pipe, so that writing to it fails. -/
theorem lets_go {event : CopierEvent} (hp : l.copier.phase = .flushing)
    (he : event = .flushed ∨ ∃ e, event = .flushFails e) :
    ∃ l' faults, l.step (.copier event) = some (l', faults) ∧ l'.pipe.readerOpen = false := by
  rcases he with rfl | ⟨e, rfl⟩ <;>
    simp [Line.step, tell, Copier.step, hp, Copier.isOver, Pipe.closeReader]

/-- No move brings a copier back to the pipe that it has left. -/
theorem Turn.left (t : Turn l m l' faults) (h : m.leaves ∨ l.copier.stillReads = false) :
    l'.copier.stillReads = false := by
  cases t with
  | writes | closes => exact h.resolve_left nofun
  | reads _ _ _ _ _ _ hc => exact hc.stays_away (h.resolve_left nofun)
  | copier event _ _ _ _ hc =>
    rcases h with hm | h
    · cases event with
      | pipeEnds => exact hc.leaves_at_end (.inl rfl)
      | pipeFails e => exact hc.leaves_at_end (.inr ⟨e, rfl⟩)
      | read | sink | flushed | flushFails | stop => cases hm
    · exact hc.stays_away h

/-- A copier that has once met the end of its pipe, or could not read it, has left it for good. -/
theorem left_of_run {stream : StreamName} {limit capacity : Nat}
    (h : (fresh stream limit capacity).run moves = some (l, faults))
    (hm : ∃ m ∈ moves, m.leaves) : l.copier.stillReads = false := by
  refine run_induct (P := fun moves l _ => (∃ m ∈ moves, m.leaves) →
    l.copier.stillReads = false) ?_ ?_ h hm
  · rintro ⟨_, hm, _⟩
    cases hm
  · rintro moves l faults m l' more ih t ⟨k, hk, hleaves⟩
    rcases List.mem_append.mp hk with hk | hk
    · exact t.left (.inr (ih ⟨k, hk, hleaves⟩))
    · cases List.mem_singleton.mp hk
      exact t.left (.inl hleaves)

/-- Reading has failed only with a move that takes the copier away. -/
theorem leaves_of_pipeErrors (h : pipeErrors moves ≠ []) : ∃ m ∈ moves, m.leaves := by
  obtain ⟨e, he⟩ := List.exists_mem_of_ne_nil _ h
  obtain ⟨m, hm, herror⟩ := List.mem_filterMap.mp he
  refine ⟨m, hm, ?_⟩
  cases m with
  | copier event =>
    cases event with
    | pipeFails => rfl
    | _ => cases herror
  | _ => cases herror

end Line

namespace Call

variable {c c' : Call} {m : Move} {moves : List Move} {s : StreamName} {l : Line}
variable {r : Request} {launch : Launch} {limit capacity : Nat}

/-! ## Who waits for whom -/

/-- A process waits for room in the pipe of an output. Both ends of the pipe are open, and the
bytes would fit if nothing else were in it. -/
structure Blocked (c : Call) (s : StreamName) (bytes : Bytes) : Prop where
  started : c.hasStarted
  output : s ≠ .stdin
  supplied : c.supplies s
  writer : (c.pipeOf s).writerOpen
  reader : (c.pipeOf s).readerOpen
  notEmpty : bytes ≠ []
  fits : bytes.length ≤ c.capacity
  waits : c.step (.childWrites s bytes) = none

instance (c : Call) (s : StreamName) (bytes : Bytes) : Decidable (c.Blocked s bytes) :=
  decidable_of_iff (c.hasStarted ∧ s ≠ .stdin ∧ c.supplies s ∧ (c.pipeOf s).writerOpen ∧
      (c.pipeOf s).readerOpen ∧ bytes ≠ [] ∧ bytes.length ≤ c.capacity ∧
      (c.step (.childWrites s bytes)).isNone)
    ⟨fun ⟨started, output, supplied, writer, reader, notEmpty, fits, waits⟩ =>
      { started, output, supplied, writer, reader, notEmpty, fits
        waits := Option.isNone_iff_eq_none.mp waits },
    fun b => ⟨b.started, b.output, b.supplied, b.writer, b.reader, b.notEmpty, b.fits,
      Option.isNone_iff_eq_none.mpr b.waits⟩⟩

/-- Whether the copier of an output may read from its pipe now. -/
def CanRead (c : Call) (s : StreamName) : Prop := ∃ count, (c.step (.copierReads s count)).isSome

/-- How the copier of an output, which is not over, makes room in its pipe. -/
inductive Relieves (c : Call) (s : StreamName) : Prop
  | reads (copier : Copier) : c.copierOf s = some copier → copier.phase = .reading →
      c.CanRead s → Relieves c s
  /-- it waits for its sink, and for nothing else -/
  | offers (copier : Copier) (left : Bytes) : c.copierOf s = some copier →
      copier.phase = .writing left →
      (∀ reply, reply.settles left →
        ∃ c', c.step (.copier s (.sink reply)) = some c' ∧ c'.CanRead s) →
      Relieves c s

/-- The copier of an output has only its sink left to flush, and lets go of the pipe then. -/
structure LetsGo (c : Call) (s : StreamName) : Prop where
  flushing : ∃ copier, c.copierOf s = some copier ∧ copier.phase = .flushing
  closes : ∀ event, (event = .flushed ∨ ∃ e, event = .flushFails e) →
    ∃ c', c.step (.copier s event) = some c' ∧ (c'.pipeOf s).readerOpen = false

/-- Nothing in a call waits in a circle. -/
structure Flows (c : Call) (moves : List Move) : Prop where
  /-- unless reading its pipe has failed -/
  relieved : ∀ s bytes, c.Blocked s bytes → Line.pipeErrors (lineMoves s moves) = [] →
    c.Relieves s
  /-- then it is told that nobody reads any more -/
  released : ∀ s bytes, c.Blocked s bytes → Line.pipeErrors (lineMoves s moves) ≠ [] → c.LetsGo s
  /-- a pipe that has ended, or could not be read, is never read again -/
  left : ∀ s, (∃ m ∈ lineMoves s moves, m.leaves) → ¬ c.CanRead s
  /-- a copier comes to its end only with its own pipe -/
  ends : ∀ s copier, c.copierOf s = some copier → copier.isOver →
    (c.pipeOf s).atEnd ∨ Line.pipeErrors (lineMoves s moves) ≠ []
  /-- the end of the process is awaited only when no copier is at work -/
  awaits : c.phase = .waiting → c.copiersDone
  begins : ∀ m c', c.step m = some c' →
    (c'.phase = .waiting ∨ ∃ status, c'.child = .reaped status) → c.copiersDone
  /-- whatever the feeder is doing -/
  returns : ∀ status feeder input, c.copiersDone → c.child = .ended status →
    ∃ c', ({ c with feeder, input } : Call).step .poll = some c' ∧
      c'.outcome? = some (Outcome.ofExit status c.captured)
  /-- an output that nobody wants holds no process up -/
  unwanted : ∀ s bytes, s ≠ .stdin → c.supplies s = false → c.hasStarted →
    c.step (.childWrites s bytes) = some c

/-! ## A blocked process -/

theorem along_of_step {lm : LineMove} {l' : Line} {faults : List Fault} (hl : c.line? s = some l)
    (hs : l.step lm = some (l', faults)) :
    ∃ c', c.along s lm = some c' ∧ c'.line? s = some l' := by
  have h0 : s ≠ .stdin := by
    rintro rfl
    cases hl
  refine ⟨{ c.setLine l' s with faults := c.faults ++ faults }, ?_, line?_setLine_self c l' _ h0⟩
  simp [along, hl, hs]

theorem pipeOf_of_line (hl : c.line? s = some l) : c.pipeOf s = l.pipe := by
  obtain ⟨copier, _, rfl⟩ := Option.map_eq_some_iff.mp hl
  rfl

theorem copierOf_of_line (hl : c.line? s = some l) : c.copierOf s = some l.copier := by
  obtain ⟨copier, hc, rfl⟩ := Option.map_eq_some_iff.mp hl
  exact hc

theorem line_of_copierOf {copier : Copier} (hc : c.copierOf s = some copier) :
    c.line? s = some { pipe := c.pipeOf s, copier } := by
  simp [line?, hc]

theorem canRead_of_line (hl : c.line? s = some l) (hp : l.copier.phase = .reading)
    (hopen : l.pipe.readerOpen) (hheld : 0 < l.pipe.held.length) : c.CanRead s := by
  have hread := Line.reads_next hopen hp Nat.one_pos hheld (by decide)
  obtain ⟨⟨l', faults⟩, hstep⟩ := Option.isSome_iff_exists.mp hread
  obtain ⟨c', hc', _⟩ := along_of_step hl hstep
  exact ⟨1, by simp [Call.step, hc']⟩

/-- Bytes wait in a pipe that holds a process up. -/
theorem held_of_blocked {bytes : Bytes} (b : c.Blocked s bytes) (hl : c.line? s = some l)
    (hcap : l.pipe.capacity = c.capacity) : 0 < l.pipe.held.length := by
  have hpipe := pipeOf_of_line hl
  have hwriter := hpipe ▸ b.writer
  have hreader := hpipe ▸ b.reader
  have hwaits := b.waits
  simp only [Call.step, b.started, b.output, b.supplied, Bool.not_true, Bool.false_or,
    decide_false, if_false, if_true, Bool.false_eq_true] at hwaits
  have hfull : l.pipe.write bytes = none := by
    cases hw : l.pipe.write bytes with
    | none => rfl
    | some pipe => simp [along, hl, Line.step, hw] at hwaits
  have hroom : l.pipe.room < bytes.length := by
    simpa [Pipe.write, hwriter, hreader, b.notEmpty] using hfull
  have hfits := b.fits
  unfold Pipe.room at hroom
  omega

theorem line_of_blocked {bytes : Bytes} (ho : Orderly c) (b : c.Blocked s bytes) :
    ∃ l, c.line? s = some l := by
  have h := ho.lines s b.output
  rw [b.started, b.supplied] at h
  exact Option.isSome_iff_exists.mp h

/-- A copier that may read has not left its pipe. -/
theorem not_canRead_of_left (ran : (ofRequest r launch limit capacity).run moves = some c)
    (hm : ∃ m ∈ lineMoves s moves, m.leaves) : ¬ c.CanRead s := by
  rintro ⟨count, hread⟩
  obtain ⟨c', hstep⟩ := Option.isSome_iff_exists.mp hread
  obtain ⟨_, l, l', faults, hl, hline, _⟩ := along_cases hstep
  have hleft := Line.left_of_run (line_of_run ran hl) hm
  cases Line.turn_of_step hline with
  | reads _ _ _ _ _ _ hc =>
    cases hc with
    | reads _ hp => simp [Copier.stillReads, hp] at hleft

/-- The line of an output whose pipe holds a process up. -/
structure Clogged (c : Call) (moves : List Move) (s : StreamName) (l : Line) : Prop where
  line : c.line? s = some l
  atWork : l.copier.isOver = false
  reader : l.pipe.readerOpen
  waiting : 0 < l.pipe.held.length
  /-- there is something to read, so only an error can have kept the copier from it -/
  flushing : l.copier.phase = .flushing → Line.pipeErrors (lineMoves s moves) ≠ []

theorem clogged_of_blocked (ran : (ofRequest r launch limit capacity).run moves = some c)
    {bytes : Bytes} (b : c.Blocked s bytes) : ∃ l, Clogged c moves s l := by
  obtain ⟨ho, terms⟩ := orderly_of_run ran
  obtain ⟨l, hl⟩ := line_of_blocked ho b
  obtain ⟨got, books⟩ := books_of_line ran hl
  have hcap : l.pipe.capacity = c.capacity := by
    rw [(Line.same_of_run (line_of_run ran hl)).2.2, terms.capacity]
    rfl
  have hheld := held_of_blocked b hl hcap
  have hopen : l.pipe.readerOpen := pipeOf_of_line hl ▸ b.reader
  refine ⟨l, hl, by simpa [hopen] using books.reader, hopen, hheld, fun hp => ?_⟩
  refine (books.left (.inl hp)).resolve_left fun hend => ?_
  simp only [Pipe.atEnd, Queue.isEmpty, Bool.and_eq_true, decide_eq_true_eq] at hend
  omega

/-- The copier behind a pipe that holds a process up makes room in it, if it could read so far. -/
theorem relieves_of_blocked (ran : (ofRequest r launch limit capacity).run moves = some c)
    {bytes : Bytes} (b : c.Blocked s bytes) (sound : Line.pipeErrors (lineMoves s moves) = []) :
    c.Relieves s := by
  obtain ⟨l, clogged⟩ := clogged_of_blocked ran b
  have hover := clogged.atWork
  have hcopier := copierOf_of_line clogged.line
  cases hp : l.copier.phase with
  | reading =>
    exact .reads l.copier hcopier hp (canRead_of_line clogged.line hp clogged.reader clogged.waiting)
  | writing left =>
    refine .offers l.copier left hcopier hp fun reply hs => ?_
    obtain ⟨l', faults, hstep, hpipe, hp'⟩ := Line.settled_next hp hs
    obtain ⟨c', hc', hl'⟩ := along_of_step clogged.line hstep
    refine ⟨c', by simpa [Call.step] using hc', ?_⟩
    exact canRead_of_line hl' hp' (hpipe ▸ clogged.reader) (hpipe ▸ clogged.waiting)
  | flushing => exact absurd sound (clogged.flushing hp)
  | done | stopped => simp [Copier.isOver, hp] at hover

/-- The copier behind a pipe that holds a process up, and that it could not read, lets go of it. -/
theorem letsGo_of_blocked (ran : (ofRequest r launch limit capacity).run moves = some c)
    {bytes : Bytes} (b : c.Blocked s bytes)
    (failed : Line.pipeErrors (lineMoves s moves) ≠ []) : c.LetsGo s := by
  obtain ⟨l, clogged⟩ := clogged_of_blocked ran b
  have hover := clogged.atWork
  have hleft := Line.left_of_run (line_of_run ran clogged.line) (Line.leaves_of_pipeErrors failed)
  cases hp : l.copier.phase with
  | reading | writing => simp [Copier.stillReads, hp] at hleft
  | done | stopped => simp [Copier.isOver, hp] at hover
  | flushing =>
    refine ⟨⟨l.copier, copierOf_of_line clogged.line, hp⟩, fun event he => ?_⟩
    obtain ⟨l', faults, hstep, hclosed⟩ := Line.lets_go hp he
    obtain ⟨c', hc', hl'⟩ := along_of_step clogged.line hstep
    refine ⟨c', ?_, pipeOf_of_line hl' ▸ hclosed⟩
    rcases he with rfl | ⟨e, rfl⟩ <;> simpa [Call.step] using hc'

/-! ## The end of a call -/

/-- A copier that is over has come to the end of its pipe, as long as the call has not returned. -/
theorem ends_with_pipe (ran : (ofRequest r launch limit capacity).run moves = some c)
    (unreturned : c.outcome? = none) {copier : Copier} (hc : c.copierOf s = some copier)
    (hover : copier.isOver) :
    (c.pipeOf s).atEnd ∨ Line.pipeErrors (lineMoves s moves) ≠ [] := by
  obtain ⟨ho, _⟩ := orderly_of_run ran
  have hl := line_of_copierOf hc
  obtain ⟨got, books⟩ := books_of_line ran hl
  have running : copier.phase ≠ .stopped := by
    intro hst
    have := ho.asked (ho.stopped s _ hl hst)
    simp [unreturned] at this
  have hdone : copier.phase = .done := by simpa [Copier.isOver, running] using hover
  exact books.left (.inr hdone)

/-- A call whose copiers are done returns when it sees that its process has ended. -/
theorem poll_returns {status : WaitStatus} (hp : c.phase = .draining ∨ c.phase = .waiting)
    (calm : c.cancelled = false) (hd : c.copiersDone) (hc : c.child = .ended status) :
    ∃ c', c.step .poll = some c' ∧ c'.outcome? = some (Outcome.ofExit status c.captured) := by
  have ha : c.awaitsExit := by rcases hp with hp | hp <;> simp [awaitsExit, calm, hp, hd]
  have hsettle : c.settle.outcome? = some (Outcome.ofExit status c.captured) := by
    simp [settle, hc, finish, outcome?]
  refine ⟨c.settle, ?_, hsettle⟩
  rcases hp with hp | hp <;> simp [Call.step, poll, hp, calm, ha]

/-- The wait for the process begins, and the process is waited for, only when the copiers are
done. -/
theorem begins_when_done (ho : Orderly c) (calm : c.cancelled = false)
    (unreturned : c.outcome? = none) (hstep : c.step m = some c')
    (hw : c'.phase = .waiting ∨ ∃ status, c'.child = .reaped status) : c.copiersDone := by
  have waited : c.phase = .waiting ∨ (∃ status, c.child = .reaped status) → c.copiersDone := by
    rintro (hp | ⟨status, hc⟩)
    · exact (ho.inPhase.waiting hp).2
    · exact absurd hc (not_reaped ho calm unreturned status)
  cases hm : m.isMain with
  | false =>
    obtain ⟨same, _⟩ := aside_of_step ho.named (fun _ => ho.line_none) hstep hm
    rw [same.phase, same.child] at hw
    exact waited hw
  | true =>
    cases taskTurn_of_step hstep hm with
    | cancel | idles => exact waited hw
    | refuses | enters | spawnFails => exact waited (.inr (hw.resolve_left nofun))
    | spawns => rcases hw with hw | ⟨_, hw⟩ <;> cases hw
    | childEnds => exact waited (.inl (hw.resolve_right nofun))
    | kills _ hx => simp [calm] at hx
    | awaits _ ha _ | settles _ _ ha _ | waitFails _ _ ha =>
      exact copiersDone_of_awaitsExit ho.inPhase ha
    | reaps _ hp => simpa [calm] using ho.inPhase.killing hp

/-- No pipe deadlock. As long as a call has neither been cancelled nor returned, a process that
waits for room in the pipe of an output is relieved by the copier of that output, which waits for
its own sink at most, and reads on even when the sink has failed. A copier that could not read
its pipe does not come back to it. It flushes its sink and lets go of the pipe, and the process
is told that nobody reads. Otherwise it stays until the pipe ends. The end of the process is
awaited only after the copiers, and neither the feeder nor the source of the input can keep the
call from returning then. -/
theorem no_pipe_deadlock (ran : (ofRequest r launch limit capacity).run moves = some c)
    (calm : c.cancelled = false) (unreturned : c.outcome? = none) : c.Flows moves := by
  obtain ⟨ho, _⟩ := orderly_of_run ran
  refine ⟨?_, ?_, ?_, ?_, ?_, ?_, ?_, ?_⟩
  · intro s bytes b sound
    exact relieves_of_blocked ran b sound
  · intro s bytes b failed
    exact letsGo_of_blocked ran b failed
  · intro s hm
    exact not_canRead_of_left ran hm
  · intro s copier hc hover
    exact ends_with_pipe ran unreturned hc hover
  · intro hp
    exact (ho.inPhase.waiting hp).2
  · intro m c' hstep hw
    exact begins_when_done ho calm unreturned hstep hw
  · intro status feeder input hd hc
    have hs : c.hasStarted := hasStarted_iff.mpr (by rw [hc]; exact nofun)
    have hp := phase_of_started ho calm unreturned hs
    exact poll_returns hp calm hd hc
  · intro s bytes h0 hsup hs
    simp [Call.step, hs, h0, hsup]

/-- The sink is full before the process has filled the pipe. -/
def crowdedCourse : List Move :=
  [.enter, .spawn, .childWrites .stdout [0x61, 0x62, 0x63], .copierReads .stdout 2,
    .copier .stdout (.sink (.takes 0)), .childWrites .stdout [0x64, 0x65]]

theorem a_process_behind_a_full_sink_is_relieved :
    ∃ c, smallCall.run crowdedCourse = some c ∧ c.Blocked .stdout [0x66] ∧
      c.Relieves .stdout := by
  have hend : (smallCall.run crowdedCourse).map (fun c =>
      (c.cancelled, c.outcome?, decide (c.Blocked .stdout [0x66]))) = some (false, none, true) := rfl
  obtain ⟨c, ran, hc⟩ := Option.map_eq_some_iff.mp hend
  obtain ⟨calm, unreturned, view⟩ : _ ∧ _ ∧ _ := by simpa only [Prod.mk.injEq] using hc
  have blocked := of_decide_eq_true view
  exact ⟨c, ran, blocked, (no_pipe_deadlock ran calm unreturned).relieved _ _ blocked rfl⟩

/-- Reading the pipe of the output fails when the process has filled it. -/
def unreadCourse : List Move :=
  [.enter, .spawn, .childWrites .stdout [0x61, 0x62, 0x63],
    .copier .stdout (.pipeFails (.numbered 5))]

/-- A process may wait for room in a pipe whose copier has not let go of it and never reads from
it again, whatever comes next. -/
theorem a_process_behind_a_broken_pipe_is_not_relieved :
    ∃ c, smallCall.run unreadCourse = some c ∧ c.cancelled = false ∧ c.outcome? = none ∧
      c.Blocked .stdout [0x64] ∧ ¬ c.Relieves .stdout ∧
      ∀ more c', c.run more = some c' → ¬ c'.CanRead .stdout := by
  have hend : (smallCall.run unreadCourse).map (fun c =>
      (c.cancelled, c.outcome?, decide (c.Blocked .stdout [0x64]),
        (c.copierOf .stdout).map (·.phase))) = some (false, none, true, some .flushing) := rfl
  obtain ⟨c, ran, hc⟩ := Option.map_eq_some_iff.mp hend
  obtain ⟨calm, unreturned, view, hphase⟩ : _ ∧ _ ∧ _ ∧ _ := by
    simpa only [Prod.mk.injEq] using hc
  refine ⟨c, ran, calm, unreturned, of_decide_eq_true view, ?_, fun more c' hmore => ?_⟩
  · rintro (⟨copier, hcopier, hp, _⟩ | ⟨copier, left, hcopier, hp, _⟩) <;>
      simp [hcopier, hp] at hphase
  · have after : smallCall.run (unreadCourse ++ more) = some c' := by
      rw [run_append, ran, Option.bind_some, hmore]
    refine not_canRead_of_left after ⟨.copier (.pipeFails (.numbered 5)), ?_, rfl⟩
    simp [lineMoves, unreadCourse, Move.lineMove?]

end Call

end GitSteward
