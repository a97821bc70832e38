-- What a copier passes on. A sink gets the bytes of the pipe in order, up to the first write that
-- fails, and nothing after that. The pipe is read to its end all the same, and each failure is
-- reported once, in the order in which they happen.
import GitSteward.Proofs.Breaking
import GitSteward.Proofs.Copier.Tail

namespace GitSteward

namespace CopierScript

/-- What the sink takes of all that the pipe gives. -/
def passed (s : CopierScript) : Bytes := (takePieces (s.pieces.map (·.bytes)) s.answers).1

/-- The error of the write that fails, if one does. -/
def writeError? (s : CopierScript) : Option SystemError :=
  (takePieces (s.pieces.map (·.bytes)) s.answers).2

/-- All that fails, in order. A sink that has failed is not flushed. -/
def errors (s : CopierScript) : List SystemError :=
  s.writeError?.toList ++ s.pipeError?.toList ++
    if s.writeError? = none then s.flushError?.toList else []

/-- The same pipe with a sink that takes all that it is offered. -/
def unhindered (s : CopierScript) : CopierScript :=
  { pieces := s.pieces, pipeError? := s.pipeError? }

end CopierScript

/-! ## What happens to the sink -/

namespace CopierEvent

/-- The error with which a write fails. -/
def writeError? : CopierEvent → Option SystemError
  | .sink (.takes 0) => some (.bare .writeZero)
  | .sink (.fails e) => some e
  | _ => none

/-- The error with which anything fails. -/
def error? : CopierEvent → Option SystemError
  | .pipeFails e | .flushFails e => some e
  | event => event.writeError?

/-- Whether flushing the sink comes to its end. -/
def isFlushEnd : CopierEvent → Bool
  | .flushed | .flushFails _ => true
  | _ => false

theorem error?_sink (reply : SinkReply) :
    (CopierEvent.sink reply).error? = (CopierEvent.sink reply).writeError? := rfl

theorem writeError?_takes {n : Nat} (h : 0 < n) :
    (CopierEvent.sink (.takes n)).writeError? = none := by
  obtain ⟨n, rfl⟩ := Nat.exists_eq_succ_of_ne_zero (Nat.ne_of_gt h)
  rfl

end CopierEvent

namespace Copier

variable {c c' last : Copier} {s s' : CopierScript} {event : CopierEvent}
variable {events : List CopierEvent} {faults : List Fault} {got : Bytes}

/-- What the sink takes in an event. -/
def given (c : Copier) : CopierEvent → Bytes
  | .sink (.takes n) => c.pending.take n
  | _ => []

/-- What the sink is still to be offered. -/
def offers (c : Copier) (s : CopierScript) : List Bytes :=
  match c.phase with
  | .reading => s.pieces.map (·.bytes)
  | .writing left => left :: s.pieces.map (·.bytes)
  | _ => []

/-- What the sink is still to take, and the error with which it is to fail. -/
def ahead (c : Copier) (s : CopierScript) : Bytes × Option SystemError :=
  if c.sinkOk then takePieces (c.offers s) s.answers else ([], none)

/-- Whether the sink is still to be flushed. -/
def willFlush (c : Copier) (s : CopierScript) : Bool :=
  !c.isOver && c.sinkOk && (c.ahead s).2.isNone

/-- All that is still to fail, in order. -/
def errorsAhead (c : Copier) (s : CopierScript) : List SystemError :=
  (c.ahead s).2.toList ++ (if c.stillReads then s.pipeError?.toList else []) ++
    if c.willFlush s then s.flushError?.toList else []

theorem ahead_of_lost (h : c.sinkOk = false) : c.ahead s = ([], none) := by simp [ahead, h]

theorem ahead_of_left (h : c.stillReads = false) : c.ahead s = ([], none) := by
  unfold stillReads at h
  unfold ahead offers
  split
  · split <;> first | rfl | simp_all
  · rfl

/-- Each fault is that of an event that fails. -/
theorem Turn.faults_eq (t : Turn c event c' faults) :
    faults = event.error?.toList.map (.streamCopy c.stream) := by
  cases t with
  | takesSome left n _ h0 _ =>
    rw [CopierEvent.error?_sink, CopierEvent.writeError?_takes h0]
    rfl
  | takesAll left _ hne =>
    rw [CopierEvent.error?_sink, CopierEvent.writeError?_takes (List.length_pos_iff.mpr hne)]
    rfl
  | _ => rfl

/-- When a write fails the sink is given up. -/
theorem Turn.loses (t : Turn c event c' faults) (h : event.writeError?.isSome) :
    c' = c.loseSink := by
  cases t with
  | sinkFull | sinkFails => rfl
  | takesSome left n _ h0 _ => simp [CopierEvent.writeError?_takes h0] at h
  | takesAll left _ hne =>
    simp [CopierEvent.writeError?_takes (List.length_pos_iff.mpr hne)] at h
  | reads | pipeEnds | pipeFails | notReady | flushed | flushFails | stops => cases h

theorem Turn.taken_eq (t : Turn c event c' faults) :
    c'.taken.bytes = c.taken.bytes ++ c.given event := by
  cases t with
  | sinkFull => simp [loseSink, given]
  | takesSome left n hp _ _ => simp [given, pending, hp]
  | takesAll left hp _ => simp [given, pending, hp]
  | reads | pipeEnds | pipeFails | notReady | sinkFails | flushed | flushFails | stops =>
    exact (List.append_nil _).symm

/-- The sink answers an offer. -/
theorem Turn.ahead_sink {reply : SinkReply} {left : Bytes} (t : Turn c (.sink reply) c' faults)
    (hp : c.phase = .writing left) (ok : c.sinkOk) (s : CopierScript) :
    takePieces (left :: s.pieces.map (·.bytes)) (reply :: s.answers) =
      (c.given (.sink reply) ++ (c'.ahead s).1,
        (CopierEvent.sink reply).writeError?.or (c'.ahead s).2) := by
  cases t with
  | sinkFull | sinkFails =>
    rw [ahead_of_lost rfl]
    simp [takePieces, takeAll, given, CopierEvent.writeError?]
  | notReady =>
    have hsame : c.ahead s = takePieces (left :: s.pieces.map (·.bytes)) s.answers := by
      simp [ahead, ok, offers, hp]
    rw [hsame]
    rfl
  | takesSome left' n hp' h0 hlt =>
    cases hp.symm.trans hp'
    have hlater : ahead { c with
        taken := c.taken.append (left.take n), phase := .writing (left.drop n) } s =
        takePieces (left.drop n :: s.pieces.map (·.bytes)) s.answers := by
      simp [ahead, ok, offers]
    rw [hlater, takePieces_some_taken h0 hlt, CopierEvent.writeError?_takes h0]
    simp [given, pending, hp]
  | takesAll left' hp' hne =>
    cases hp.symm.trans hp'
    have hlater : ahead { c with taken := c.taken.append left, phase := .reading } s =
        takePieces (s.pieces.map (·.bytes)) s.answers := by
      simp [ahead, ok, offers]
    rw [hlater, takePieces_all_taken hne (Nat.le_refl _),
      CopierEvent.writeError?_takes (List.length_pos_iff.mpr hne)]
    simp [given, pending, hp]

/-- In an event without the sink nothing is given. -/
theorem ahead_aside (hgiven : c.given event = []) (hok : event.writeError? = none)
    (hsame : c.ahead s = c'.ahead s') :
    c.ahead s = (c.given event ++ (c'.ahead s').1, event.writeError?.or (c'.ahead s').2) := by
  rw [hgiven, hok, hsame]
  rfl

/-- What is ahead before an event is what the event brings, and then what is ahead after it. -/
theorem ahead_next? (books : Books c got) (hnext : c.next? s = some (event, s'))
    (t : Turn c event c' faults) :
    c.ahead s = (c.given event ++ (c'.ahead s').1, event.writeError?.or (c'.ahead s').2) := by
  have offered {left : Bytes} (hp : c.phase = .writing left) :
      left ≠ [] ∧ c.ahead s = takePieces (left :: s.pieces.map (·.bytes)) s.answers :=
    ⟨(books.writing left hp).1, by simp [ahead, (books.writing left hp).2, offers, hp]⟩
  cases comes_of_next? hnext with
  | piece piece rest hp hpieces =>
    refine ahead_aside rfl rfl ?_
    cases t with
    | reads => by_cases ok : c.sinkOk <;> simp [ahead, offers, ok, hp, hpieces]
  | pipeEnd hp hpieces =>
    have hnow : c.ahead s = ([], none) := by
      by_cases ok : c.sinkOk <;> simp [ahead, ok, offers, hp, hpieces, takePieces]
    have hlater : c.leavePipe.ahead s = ([], none) := ahead_of_left (stillReads_leavePipe c)
    cases herror : s.pipeError? <;> simp only [CopierScript.pipeEnd, herror] at t ⊢ <;>
      cases t <;> exact ahead_aside rfl rfl (hnow.trans hlater.symm)
  | answer left reply rest hp hanswers =>
    obtain ⟨hne, hnow⟩ := offered hp
    rw [hnow, hanswers, ← takePieces_atMost hne]
    exact t.ahead_sink hp (books.writing left hp).2 { s with answers := rest }
  | takesAll left hp hanswers =>
    obtain ⟨hne, hnow⟩ := offered hp
    rw [hnow, hanswers, takePieces_of_no_answer hne, ← hanswers]
    exact t.ahead_sink hp (books.writing left hp).2 s
  | waits n hp _ =>
    cases t with
    | notReady =>
      have hleft : c.stillReads = false := by simp [stillReads, hp]
      exact ahead_aside rfl rfl ((ahead_of_left hleft).trans (ahead_of_left hleft).symm)
  | flushEnd hp _ =>
    have hnow : c.ahead s = ([], none) := ahead_of_left (by simp [stillReads, hp])
    cases herror : s.flushError? <;> simp only [CopierScript.flushEnd, herror] at t ⊢ <;>
      cases t <;> exact ahead_aside rfl rfl (hnow.trans (ahead_of_left rfl).symm)

/-! ## What fails, and the flush -/

/-- A flush that is due comes next, or is still due after what comes next. -/
theorem willFlush_next? (books : Books c got) (hnext : c.next? s = some (event, s'))
    (t : Turn c event c' faults) :
    c.willFlush s = (event.isFlushEnd || c'.willFlush s') ∧
      (event.isFlushEnd → c'.willFlush s' = false) := by
  have hahead := congrArg Prod.snd (ahead_next? books hnext t)
  have hover : c.isOver = false := t.not_over
  -- an event in which the sink does not fail leaves it to what comes later
  have same (hok : event.writeError? = none) (hsink : c'.sinkOk = c.sinkOk)
      (hgo : c'.sinkOk → c'.isOver = false) : c.willFlush s = c'.willFlush s' := by
    rw [hok, Option.none_or] at hahead
    rw [willFlush, willFlush, hahead, hsink, hover]
    cases ok : c.sinkOk with
    | false => simp
    | true => rw [hgo (hsink.trans ok)]
  have lost (herror : event.writeError?.isSome) :
      c.willFlush s = false ∧ c'.willFlush s' = false := by
    refine ⟨?_, by simp [willFlush, t.loses herror, loseSink]⟩
    obtain ⟨e, he⟩ := Option.isSome_iff_exists.mp herror
    rw [he, Option.some_or] at hahead
    simp [willFlush, hahead]
  have never (hflush : event.isFlushEnd = false) : event.isFlushEnd → c'.willFlush s' = false := by
    simp [hflush]
  cases t with
  | reads bytes hp =>
    refine ⟨same rfl rfl fun ok => ?_, never rfl⟩
    have ok : c.sinkOk = true := ok
    simp [isOver, ok]
  | pipeEnds | pipeFails =>
    refine ⟨same rfl rfl fun ok => ?_, never rfl⟩
    have ok : c.sinkOk = true := ok
    simp [isOver, leavePipe, ok]
  | sinkFull | sinkFails =>
    obtain ⟨hnow, hlater⟩ := lost rfl
    exact ⟨by rw [hnow, hlater]; rfl, never rfl⟩
  | takesSome left n _ h0 _ =>
    exact ⟨same (CopierEvent.writeError?_takes h0) rfl fun _ => rfl, never rfl⟩
  | takesAll left _ hne =>
    have hok := CopierEvent.writeError?_takes (List.length_pos_iff.mpr hne)
    exact ⟨same hok rfl fun _ => rfl, never rfl⟩
  | notReady => exact ⟨same rfl rfl fun _ => hover, never rfl⟩
  | flushed hp | flushFails _ hp =>
    have hnow : c.ahead s = ([], none) := ahead_of_left (by simp [stillReads, hp])
    refine ⟨?_, fun _ => rfl⟩
    simp [willFlush, hover, books.flushing hp, hnow, CopierEvent.isFlushEnd]
  | stops => exact absurd rfl (next?_ne_stop hnext)

/-- An answer of the sink leaves the pipe and the flush as they are, unless the sink fails. -/
theorem errors_sink {reply : SinkReply} (books : Books c got)
    (hnext : c.next? s = some (.sink reply, s')) (t : Turn c (.sink reply) c' faults)
    (hpipe : s'.pipeError? = s.pipeError?) (hflush : s'.flushError? = s.flushError?) :
    c.errorsAhead s = (CopierEvent.sink reply).error?.toList ++ c'.errorsAhead s' := by
  have hahead := congrArg Prod.snd (ahead_next? books hnext t)
  have hwill := (willFlush_next? books hnext t).1
  have hstill : c'.stillReads = c.stillReads := t.stillReads_eq rfl nofun
  simp only [CopierEvent.isFlushEnd, Bool.false_or] at hwill
  rw [errorsAhead, errorsAhead, hahead, hwill, hstill, hpipe, hflush]
  rw [CopierEvent.error?_sink]
  cases herror : (CopierEvent.sink reply).writeError? with
  | none => rfl
  | some e =>
    have hlost : c'.ahead s' = ([], none) := by
      rw [t.loses (by rw [herror]; rfl)]
      exact ahead_of_lost rfl
    simp [hlost]

/-- What is still to fail is what comes next, if that fails, and then what fails after it. -/
theorem errors_next? (books : Books c got) (hnext : c.next? s = some (event, s'))
    (t : Turn c event c' faults) :
    c.errorsAhead s = event.error?.toList ++ c'.errorsAhead s' := by
  have hahead := congrArg Prod.snd (ahead_next? books hnext t)
  have hwill := (willFlush_next? books hnext t).1
  cases comes_of_next? hnext with
  | piece piece rest hp hpieces =>
    cases t with
    | reads =>
      have hstill : c.stillReads := by simp [stillReads, hp]
      have hstill' (k : Queue) : stillReads { c with
          captured := k
          phase := if c.sinkOk then .writing piece.bytes else .reading } := by
        by_cases ok : c.sinkOk <;> simp [stillReads, ok]
      simp only [CopierEvent.isFlushEnd, Bool.false_or] at hwill
      rw [errorsAhead, errorsAhead, hahead, hwill, hstill, hstill']
      rfl
  | pipeEnd hp hpieces =>
    have hstill : c.stillReads := by simp [stillReads, hp]
    have hleft := stillReads_leavePipe c
    cases herror : s.pipeError? <;>
      simp only [CopierScript.pipeEnd, herror] at t hahead hwill ⊢ <;> cases t <;>
      simp only [CopierEvent.isFlushEnd, Bool.false_or] at hwill <;>
      simp [errorsAhead, hahead, hwill, hstill, hleft, herror, ahead_of_left hleft,
        CopierEvent.writeError?, CopierEvent.error?]
  | answer left reply rest hp hanswers => exact errors_sink books hnext t rfl rfl
  | takesAll left hp hanswers => exact errors_sink books hnext t rfl rfl
  | waits n hp hwaits => exact errors_sink books hnext t rfl rfl
  | flushEnd hp hwaits =>
    have hleft : c.stillReads = false := by simp [stillReads, hp]
    have hdone : c'.isOver := by
      unfold CopierScript.flushEnd at t
      split at t <;> cases t <;> rfl
    have hleft' : c'.stillReads = false := by
      unfold CopierScript.flushEnd at t
      split at t <;> cases t <;> rfl
    have hend : s.flushEnd.isFlushEnd := by unfold CopierScript.flushEnd; split <;> rfl
    have hover : c'.willFlush s = false := by simp [willFlush, hdone]
    rw [hend, Bool.true_or] at hwill
    rw [errorsAhead, errorsAhead, ahead_of_left hleft, ahead_of_left hleft', hwill, hover, hleft,
      hleft']
    cases herror : s.flushError? <;> simp [CopierScript.flushEnd, herror, CopierEvent.error?,
      CopierEvent.writeError?]

/-! ## The whole way -/

/-- A flush comes to the end that the script has for it. -/
theorem next?_flushEnd (hnext : c.next? s = some (event, s')) :
    s'.flushEnd = s.flushEnd ∧ (event.isFlushEnd → event = s.flushEnd) := by
  cases comes_of_next? hnext with
  | piece | answer | takesAll | waits => exact ⟨rfl, nofun⟩
  | pipeEnd =>
    refine ⟨rfl, fun h => ?_⟩
    unfold CopierScript.pipeEnd at h
    split at h <;> cases h
  | flushEnd => exact ⟨rfl, fun _ => rfl⟩

/-- What comes of a script that a copier is still to meet. -/
structure Plays (c : Copier) (s : CopierScript) (last : Copier × List Fault) : Prop where
  taken : last.1.taken.bytes = c.taken.bytes ++ (c.ahead s).1
  told : last.2 = (c.errorsAhead s).map (.streamCopy c.stream)
  errors : (c.course s).filterMap CopierEvent.error? = c.errorsAhead s
  failures : (c.course s).filterMap CopierEvent.writeError? = (c.ahead s).2.toList
  flushes : (c.course s).filter CopierEvent.isFlushEnd =
    if c.willFlush s then [s.flushEnd] else []

theorem plays_forward (c : Copier) (s : CopierScript) (books : Books c got) :
    Plays c s (c.forward s) := by
  refine forward_induct (P := fun c s last => ∀ got, Books c got → Plays c s last) ?_ ?_ c s
    got books
  · intro c s hover got _
    have hleft : c.stillReads = false := by
      unfold isOver at hover
      unfold stillReads
      split <;> simp_all
    have hwill : c.willFlush s = false := by simp [willFlush, hover]
    have herrors : c.errorsAhead s = [] := by
      simp [errorsAhead, ahead_of_left hleft, hwill, hleft]
    refine ⟨?_, ?_, ?_, ?_, ?_⟩
    · rw [ahead_of_left hleft, List.append_nil]
    · rw [herrors, List.map_nil]
    · rw [course_of_over hover, herrors, List.filterMap_nil]
    · rw [course_of_over hover, ahead_of_left hleft]
      rfl
    · rw [course_of_over hover, hwill]
      rfl
  · intro c s event s' c' faults last hnext t ih got books
    have plays := ih _ (t.books books)
    have herrors := errors_next? books hnext t
    refine ⟨?_, ?_, ?_, ?_, ?_⟩
    · rw [plays.taken, t.taken_eq, ahead_next? books hnext t, List.append_assoc]
    · rw [plays.told, t.faults_eq, herrors, List.map_append, t.same.1]
    · rw [course_of_turn hnext t, herrors, ← plays.errors]
      cases herror : event.error? with
      | none => rw [List.filterMap_cons_none herror]; rfl
      | some e => rw [List.filterMap_cons_some herror]; rfl
    · have hfails := plays.failures
      rw [course_of_turn hnext t, ahead_next? books hnext t]
      cases herror : event.writeError? with
      | none => rw [List.filterMap_cons_none herror, hfails, Option.none_or]
      | some e =>
        -- a sink fails once
        rw [t.loses (by rw [herror]; rfl), ahead_of_lost rfl] at hfails
        rw [List.filterMap_cons_some herror, t.loses (by rw [herror]; rfl), hfails, Option.some_or]
        rfl
    · obtain ⟨hsame, hend⟩ := next?_flushEnd hnext
      obtain ⟨hwill, hlast⟩ := willFlush_next? books hnext t
      rw [course_of_turn hnext t, List.filter_cons, plays.flushes, hsame, hwill]
      by_cases hflush : event.isFlushEnd
      · simp [hlast hflush, hend hflush]
      · simp [hflush]

/-! ## After a failure of the sink -/

theorem run_split {first second : List CopierEvent}
    (h : c.run (first ++ second) = some (last, faults)) :
    ∃ mid now later, c.run first = some (mid, now) ∧ mid.run second = some (last, later) := by
  induction first generalizing c faults with
  | nil => exact ⟨c, [], faults, rfl, h⟩
  | cons event rest ih =>
    simp only [List.cons_append, run, Option.bind_eq_bind, Option.bind_eq_some_iff] at h
    obtain ⟨⟨c', now⟩, hstep, ⟨last', later⟩, hrest, hsame⟩ := h
    cases hsame
    obtain ⟨mid, before, after, hfirst, hsecond⟩ := ih hrest
    exact ⟨mid, now ++ before, after, by simp [run, hstep, hfirst], hsecond⟩

/-- A sink that has failed takes nothing any more, and only the pipe is attended to. -/
theorem only_pipe_of_lost (hrun : c.run events = some (last, faults)) (hlost : c.sinkOk = false)
    (hp : c.phase = .reading ∨ c.isOver) (hstop : .stop ∉ events) :
    last.taken = c.taken ∧ ∀ event ∈ events, event.isFromPipe := by
  induction events generalizing c faults with
  | nil =>
    cases hrun
    exact ⟨rfl, nofun⟩
  | cons event rest ih =>
    simp only [run, Option.bind_eq_bind, Option.bind_eq_some_iff] at hrun
    obtain ⟨⟨c', now⟩, hstep, ⟨last', later⟩, hrest, hsame⟩ := hrun
    cases hsame
    obtain ⟨hgo, hstop⟩ := List.ne_and_not_mem_of_not_mem_cons hstop
    have t := turn_of_step hstep
    have hread : c.phase = .reading := hp.resolve_right (by simp [t.not_over])
    have next (hsink : c'.sinkOk = false) (hp' : c'.phase = .reading ∨ c'.isOver)
        (htaken : c'.taken = c.taken) (hpipe : event.isFromPipe) :
        last'.taken = c.taken ∧ ∀ e ∈ event :: rest, e.isFromPipe := by
      obtain ⟨hlast, honly⟩ := ih hrest hsink hp' hstop
      exact ⟨hlast.trans htaken, List.forall_mem_cons.mpr ⟨hpipe, honly⟩⟩
    cases t with
    | reads => exact next hlost (.inl (by simp [hlost])) rfl rfl
    | pipeEnds | pipeFails =>
      exact next hlost (.inr (by simp [leavePipe, hlost, isOver])) rfl rfl
    | sinkFull _ hw | sinkFails _ _ hw | takesSome _ _ hw | takesAll _ hw =>
      cases hread.symm.trans hw
    | notReady hw =>
      rcases hw with ⟨left, hw⟩ | hw <;> cases hread.symm.trans hw
    | flushed hw | flushFails _ hw => cases hread.symm.trans hw
    | stops => exact absurd rfl hgo.symm

/-- How many bytes the sink takes in some events. -/
def takenIn (events : List CopierEvent) : Nat := (events.map CopierEvent.takenCount).sum

theorem length_taken_of_run (hrun : c.run events = some (last, faults)) :
    last.taken.length = c.taken.length + takenIn events := by
  induction events generalizing c faults with
  | nil =>
    cases hrun
    rfl
  | cons event rest ih =>
    simp only [run, Option.bind_eq_bind, Option.bind_eq_some_iff] at hrun
    obtain ⟨⟨c', now⟩, hstep, ⟨last', later⟩, hrest, hsame⟩ := hrun
    cases hsame
    rw [ih hrest, (turn_of_step hstep).taken_length, takenIn, takenIn, List.map_cons,
      List.sum_cons, Nat.add_assoc]

theorem stop_notMem_course (c : Copier) (s : CopierScript) : .stop ∉ c.course s := by
  refine forward_induct (P := fun c s _ => .stop ∉ c.course s) ?_ ?_ c s
  · intro c s hover
    rw [course_of_over hover]
    exact List.not_mem_nil
  · intro c s event s' c' faults last hnext t ih
    rw [course_of_turn hnext t]
    exact List.not_mem_cons_of_ne_of_not_mem (next?_ne_stop hnext).symm ih

/-- When the sink has failed it holds what it took before, and only the pipe is attended to. -/
theorem after_failure {before after : List CopierEvent} {reply : SinkReply}
    (hcourse : c.course s = before ++ .sink reply :: after)
    (hfail : (CopierEvent.sink reply).writeError?.isSome) :
    (c.forward s).1.taken.length = c.taken.length + takenIn before ∧
      ∀ event ∈ after, event.isFromPipe := by
  have hrun := run_course c s
  have hstop := stop_notMem_course c s
  rw [hcourse] at hrun hstop
  obtain ⟨mid, now, later, hbefore, hrest⟩ := run_split hrun
  simp only [run, Option.bind_eq_bind, Option.bind_eq_some_iff] at hrest
  obtain ⟨⟨mid', told⟩, hstep, ⟨last, rest⟩, hafter, hsame⟩ := hrest
  have hlast : last = (c.forward s).1 := congrArg Prod.fst (Option.some.inj hsame)
  replace hafter : mid'.run after = some (last, rest) := hafter
  have hstop' : .stop ∉ after := fun h =>
    hstop (List.mem_append_right _ (List.mem_cons_of_mem _ h))
  have hfails : mid' = mid.loseSink := (turn_of_step hstep).loses hfail
  rw [hfails] at hafter
  obtain ⟨htaken, honly⟩ := only_pipe_of_lost hafter rfl (.inl rfl) hstop'
  have hlength := length_taken_of_run hbefore
  refine ⟨?_, honly⟩
  rw [← hlast, htaken]
  exact hlength

/-! ## The law -/

/-- How a copier plays a script to a sink. -/
structure PassesOn (stream : StreamName) (limit : Nat) (s : CopierScript) : Prop where
  /-- whatever the pipe and the sink do, copying comes to its end -/
  returns : (forward { stream, limit } s).1.isDone
  /-- the sink gets what it takes of the pieces when it is offered one after the other, each until
  it has all of it -/
  passed : (forward { stream, limit } s).1.taken.bytes = s.passed
  /-- that is everything if no write fails -/
  whole : s.writeError? = none → s.passed = s.bytes
  /-- and else what was taken before the write that fails, which is not everything. After that
  the sink is neither written to nor flushed, and the pipe is read on. -/
  upTo : ∀ before reply after, course { stream, limit } s = before ++ .sink reply :: after →
    (CopierEvent.sink reply).writeError?.isSome →
      s.passed = s.bytes.take (takenIn before) ∧ takenIn before < s.bytes.length ∧
        ∀ event ∈ after, event.isFromPipe
  /-- one write fails at most -/
  failures : (course { stream, limit } s).filterMap CopierEvent.writeError? = s.writeError?.toList
  /-- the pipe is read in the same way as for a sink that takes everything -/
  reads : (course { stream, limit } s).filter CopierEvent.isFromPipe = s.fromPipe ∧
    (course { stream, limit } s.unhindered).filter CopierEvent.isFromPipe = s.fromPipe
  /-- what fails is reported: a write, then reading, then flushing -/
  told : (forward { stream, limit } s).2 = s.errors.map (.streamCopy stream)
  /-- each in its turn -/
  inOrder : (forward { stream, limit } s).2 =
    ((course { stream, limit } s).filterMap CopierEvent.error?).map (.streamCopy stream)
  few : (forward { stream, limit } s).2.length ≤ 2
  /-- the sink is flushed once if no write has failed, and else not at all -/
  flushes : (course { stream, limit } s).filter CopierEvent.isFlushEnd =
    if s.writeError? = none then [s.flushEnd] else []
  /-- none of this changes the bytes that are kept -/
  kept : (forward { stream, limit } s).1.captured.bytes =
    (forward { stream, limit } s.unhindered).1.captured.bytes

theorem bytes_eq_flatten (s : CopierScript) : s.bytes = (s.pieces.map (·.bytes)).flatten := by
  rw [CopierScript.bytes, List.flatMap_def]

/-- Some bytes are left over just when a write fails. -/
theorem passed_append (s : CopierScript) :
    ∃ left, s.bytes = s.passed ++ left ∧ (left = [] ↔ s.writeError? = none) := by
  rw [bytes_eq_flatten]
  cases herror : s.writeError? with
  | none =>
    have hall : s.passed = (s.pieces.map (·.bytes)).flatten := takePieces_none herror
    exact ⟨[], by rw [hall, List.append_nil], by simp⟩
  | some e =>
    have hne : ∀ piece ∈ s.pieces.map (·.bytes), piece ≠ [] := by
      intro bytes hb
      obtain ⟨piece, _, rfl⟩ := List.mem_map.mp hb
      exact piece.ne_nil
    obtain ⟨left, hleft, hsplit⟩ := takePieces_some hne herror
    exact ⟨left, hsplit, by simp [hleft]⟩

/-- The bytes of the pipe go to the sink in order up to the first write that fails, and nothing
goes there after that. The pipe is read to its end in any case, and what fails is reported once
each, in order, as a fault of this stream. -/
theorem the_longest_prefix_is_passed_on (stream : StreamName) (limit : Nat) (s : CopierScript) :
    PassesOn stream limit s := by
  have plays := plays_forward { stream, limit } s (books_fresh stream limit)
  have hwill : willFlush { stream, limit } s = s.writeError?.isNone := rfl
  have herrors : errorsAhead { stream, limit } s = s.errors := by
    rw [errorsAhead, hwill, CopierScript.errors]
    simp only [Option.isNone_iff_eq_none]
    rfl
  have hpassed : (forward { stream, limit } s).1.taken.bytes = s.passed := plays.taken
  obtain ⟨left, hsplit, hleft⟩ := passed_append s
  have hflushes := plays.flushes
  refine
    { returns := isDone_forward _ s nofun
      passed := hpassed
      whole := ?_
      upTo := ?_
      failures := plays.failures
      reads := ⟨filter_course _ s, filter_course _ s.unhindered⟩
      told := by rw [plays.told, herrors]
      inOrder := by rw [plays.told, plays.errors]
      few := ?_
      flushes := ?_
      kept := by rw [captured_forward, captured_forward]; rfl }
  · intro hnone
    rw [hsplit, hleft.mpr hnone, List.append_nil]
  · intro before reply after hcourse hfail
    obtain ⟨hlength, honly⟩ := after_failure hcourse hfail
    have hsome : s.writeError? ≠ none := by
      intro hnone
      have hfails : _ = s.writeError?.toList := plays.failures
      rw [hnone, Option.toList_none, List.filterMap_eq_nil_iff] at hfails
      have hreply := hfails (.sink reply) (by rw [hcourse]; simp)
      simp [hreply] at hfail
    have hcount : s.passed.length = takenIn before := by
      rw [← hpassed, Tape.length_bytes, hlength]
      exact Nat.zero_add _
    refine ⟨?_, ?_, honly⟩
    · rw [hsplit, ← hcount, List.take_left]
    · have hmore := List.length_pos_iff.mpr (mt hleft.mp hsome)
      rw [hsplit, List.length_append]
      omega
  · rw [plays.told, herrors, List.length_map, CopierScript.errors]
    cases s.writeError? <;> cases s.pipeError? <;> cases s.flushError? <;> simp
  · rw [hflushes, hwill]
    simp only [Option.isNone_iff_eq_none]

end Copier

end GitSteward
