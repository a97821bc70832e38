-- The status of the process alone decides how a call ends. Sinks and sources may break in any way:
-- two runs of a call whose processes did the same come to the same outcome, and what happens to one
-- output is not felt by the other.
import GitSteward.Proofs.Breaking
import GitSteward.Proofs.Call.Outputs

namespace GitSteward.Call

variable {c : Call} {moves : List Move} {s : StreamName} {l : Line} {status : WaitStatus}
variable {r : Request} {launch : Launch} {limit capacity : Nat}

/-! ## The outcome -/

/-- A call that was not cancelled, and whose process has been waited for, has told how that
ended. -/
theorem verdict_of_reaped (ho : Orderly c) (calm : c.cancelled = false)
    (hc : c.child = .reaped status) :
    c.copiersDone ∧ c.outcome? = some (Outcome.ofExit status c.captured) := by
  cases hout : c.outcome? with
  | none => exact absurd hc (not_reaped ho calm hout status)
  | some outcome =>
    cases ho.inPhase.returned (phase_of_outcome hout) with
    | exited status' hc' hd =>
      rw [hc] at hc'
      cases hc'
      exact ⟨hd, rfl⟩
    | refused hc' | notStarted _ hc' => simp [hc] at hc'
    | waitFailed _ hl _ => simp [IsLive, hc] at hl
    | killed _ _ hx => simp [calm] at hx

/-- The last bytes of the error output that came through its pipe, if the caller wanted it. -/
def errorTail (c : Call) (moves : List Move) : Bytes :=
  if c.supplies .stderr then lastBytes c.captureLimit (Line.arrived (lineMoves .stderr moves))
  else []

theorem captured_of_run (ran : (ofRequest r launch limit capacity).run moves = some c)
    (hs : c.hasStarted) : c.captured = c.errorTail moves := by
  obtain ⟨ho, terms⟩ := orderly_of_run ran
  have hline := ho.lines .stderr (by decide)
  rw [hs, Bool.true_and] at hline
  have hkeeps : c.captureLimit = limit := congrFun terms.keeps .stderr
  rw [captured_eq]
  cases hl : c.line? .stderr with
  | none =>
    have hsup : c.supplies .stderr = false := by simpa [hl] using hline.symm
    simp [errorTail, hsup]
  | some l =>
    have hsup : c.supplies .stderr = true := by simpa [hl] using hline.symm
    obtain ⟨got, books⟩ := books_of_line ran hl
    have hlimit : l.copier.limit = limit := (Line.same_of_run (line_of_run ran hl)).2.1
    simp [errorTail, hsup, books.copier.captured, books.got_eq, hlimit, hkeeps]

theorem outcome_of_reaped (ran : (ofRequest r launch limit capacity).run moves = some c)
    (calm : c.cancelled = false) (hc : c.child = .reaped status) :
    c.outcome? = some (if status.word = 0 then .ok ()
      else .error (.exit status (Fault.stderrText (c.errorTail moves)))) := by
  rw [(verdict_of_reaped (orderly_of_run ran).1 calm hc).2,
    captured_of_run ran (started_of_reaped hc)]
  simp [Outcome.ofExit, WaitStatus.isSuccess]

/-! ## Each output by itself -/

/-- An output that nobody wants has no sink and no faults. -/
theorem nothing_told (ran : (ofRequest r launch limit capacity).run moves = some c)
    (h0 : s ≠ .stdin) (hl : c.line? s = none) : c.sunk s = [] ∧ c.faultsOf s = [] := by
  have ha := runsAlone_of_run ran h0
  unfold RunsAlone at ha
  simp only [hl] at ha
  exact ⟨by rw [sunk_eq, hl]; rfl, ha.1⟩

/-- What has come to a sink that breaks in a certain way, and what has been reported of it, when
the copiers are done. -/
theorem told_of_breaking (ran : (ofRequest r launch limit capacity).run moves = some c)
    (hd : c.copiersDone) (hl : c.line? s = some l) {b : Breaking}
    (hk : Line.KeepsTo b (lineMoves s moves)) :
    (c.sunk s, c.faultsOf s) =
      b.outcome s (Line.arrived (lineMoves s moves)) (Line.pipeErrors (lineMoves s moves)) := by
  have hdone := copiersDone_iff.mp hd s l hl
  rw [← Line.outcome_of_run (line_of_run ran hl) hdone hk, sunk_eq, hl]
  rfl

/-! ## Two runs -/

section Twins

variable {r₁ r₂ : Request} {c₁ c₂ : Call} {moves₁ moves₂ : List Move}

/-- Two calls that were not cancelled, with the same streams and with processes that did the same:
they wrote the same, and ended in the same way. -/
structure Alike (status : WaitStatus) (c₁ c₂ : Call) (moves₁ moves₂ : List Move) : Prop where
  calm : c₁.cancelled = false ∧ c₂.cancelled = false
  ended : c₁.child = .reaped status ∧ c₂.child = .reaped status
  supplies : c₁.supplies = c₂.supplies
  bytes : ∀ s, s ≠ .stdin → c₁.supplies s →
    Line.SameBytes (lineMoves s moves₁) (lineMoves s moves₂)

/-- The sink of one output did the same: step by step, or in that it broke in the same way, however
the bytes were cut into pieces. -/
def SameSink (s : StreamName) (moves₁ moves₂ : List Move) : Prop :=
  lineMoves s moves₁ = lineMoves s moves₂ ∨
    ∃ b, Line.KeepsTo b (lineMoves s moves₁) ∧ Line.KeepsTo b (lineMoves s moves₂)

theorem Alike.started (alike : Alike status c₁ c₂ moves₁ moves₂) :
    c₁.hasStarted ∧ c₂.hasStarted :=
  ⟨started_of_reaped alike.ended.1, started_of_reaped alike.ended.2⟩

/-- The lines of one output in two such calls. -/
inductive SameLines (s : StreamName) (c₁ c₂ : Call) (moves₁ moves₂ : List Move) : Prop
  | unwanted : c₁.line? s = none → c₂.line? s = none → SameLines s c₁ c₂ moves₁ moves₂
  | copied (l₁ l₂ : Line) : c₁.line? s = some l₁ → c₂.line? s = some l₂ →
      Line.arrived (lineMoves s moves₁) = Line.arrived (lineMoves s moves₂) →
      Line.pipeErrors (lineMoves s moves₁) = Line.pipeErrors (lineMoves s moves₂) →
      SameLines s c₁ c₂ moves₁ moves₂

theorem sameLines_of_alike (ran₁ : (ofRequest r₁ launch limit capacity).run moves₁ = some c₁)
    (ran₂ : (ofRequest r₂ launch limit capacity).run moves₂ = some c₂)
    (alike : Alike status c₁ c₂ moves₁ moves₂) (h0 : s ≠ .stdin) :
    SameLines s c₁ c₂ moves₁ moves₂ := by
  have ho₁ := (orderly_of_run ran₁).1
  have ho₂ := (orderly_of_run ran₂).1
  have hline₁ := ho₁.lines s h0
  have hline₂ := ho₂.lines s h0
  rw [alike.started.1, Bool.true_and] at hline₁
  rw [alike.started.2, Bool.true_and, ← alike.supplies] at hline₂
  cases hsup : c₁.supplies s with
  | false =>
    rw [hsup] at hline₁ hline₂
    exact .unwanted (by simpa using hline₁) (by simpa using hline₂)
  | true =>
    rw [hsup] at hline₁ hline₂
    obtain ⟨l₁, hl₁⟩ := Option.isSome_iff_exists.mp hline₁
    obtain ⟨l₂, hl₂⟩ := Option.isSome_iff_exists.mp hline₂
    have hd₁ := (verdict_of_reaped ho₁ alike.calm.1 alike.ended.1).1
    have hd₂ := (verdict_of_reaped ho₂ alike.calm.2 alike.ended.2).1
    have same := alike.bytes s h0 hsup
    refine .copied l₁ l₂ hl₁ hl₂ ?_ same.errors
    exact same.arrived (line_of_run ran₁ hl₁) (copiersDone_iff.mp hd₁ s l₁ hl₁)
      (line_of_run ran₂ hl₂) (copiersDone_iff.mp hd₂ s l₂ hl₂)

theorem errorTail_of_alike
    (ran₁ : (ofRequest r₁ launch limit capacity).run moves₁ = some c₁)
    (ran₂ : (ofRequest r₂ launch limit capacity).run moves₂ = some c₂)
    (alike : Alike status c₁ c₂ moves₁ moves₂) : c₁.errorTail moves₁ = c₂.errorTail moves₂ := by
  have hlimit₁ : c₁.captureLimit = limit := congrFun (orderly_of_run ran₁).2.keeps .stderr
  have hlimit₂ : c₂.captureLimit = limit := congrFun (orderly_of_run ran₂).2.keeps .stderr
  have hline := (orderly_of_run ran₁).1.lines .stderr (by decide)
  rw [alike.started.1, Bool.true_and] at hline
  unfold errorTail
  rw [← alike.supplies, hlimit₁, hlimit₂]
  cases sameLines_of_alike ran₁ ran₂ alike (s := .stderr) (by decide) with
  | unwanted h₁ _ =>
    have hsup : c₁.supplies .stderr = false := by simpa [h₁] using hline.symm
    simp [hsup]
  | copied _ _ _ _ harrived _ => rw [harrived]

/-- What has come to the sink of one output depends on this sink alone. -/
theorem told_of_alike (ran₁ : (ofRequest r₁ launch limit capacity).run moves₁ = some c₁)
    (ran₂ : (ofRequest r₂ launch limit capacity).run moves₂ = some c₂)
    (alike : Alike status c₁ c₂ moves₁ moves₂) (h0 : s ≠ .stdin) (sink : SameSink s moves₁ moves₂) :
    c₁.sunk s = c₂.sunk s ∧ c₁.faultsOf s = c₂.faultsOf s := by
  cases sameLines_of_alike ran₁ ran₂ alike h0 with
  | unwanted h₁ h₂ =>
    obtain ⟨hsunk₁, htold₁⟩ := nothing_told ran₁ h0 h₁
    obtain ⟨hsunk₂, htold₂⟩ := nothing_told ran₂ h0 h₂
    exact ⟨hsunk₁.trans hsunk₂.symm, htold₁.trans htold₂.symm⟩
  | copied l₁ l₂ hl₁ hl₂ harrived herrors =>
    rcases sink with hmoves | ⟨b, hk₁, hk₂⟩
    · have h₁ := line_of_run ran₁ hl₁
      have h₂ := line_of_run ran₂ hl₂
      have hkeeps : (ofRequest r₁ launch limit capacity).keeps s =
          (ofRequest r₂ launch limit capacity).keeps s := by cases s <;> rfl
      rw [hmoves, hkeeps, h₂] at h₁
      simp only [Option.some.injEq, Prod.mk.injEq] at h₁
      exact ⟨by rw [sunk_eq, sunk_eq, hl₁, hl₂, h₁.1], h₁.2.symm⟩
    · have hd₁ := (verdict_of_reaped (orderly_of_run ran₁).1 alike.calm.1 alike.ended.1).1
      have hd₂ := (verdict_of_reaped (orderly_of_run ran₂).1 alike.calm.2 alike.ended.2).1
      have h₁ := told_of_breaking ran₁ hd₁ hl₁ hk₁
      have h₂ := told_of_breaking ran₂ hd₂ hl₂ hk₂
      rw [harrived, herrors, ← h₂] at h₁
      exact Prod.mk.inj h₁

/-- The status of the process decides. In two calls whose processes did the same, the outcome is
the same, whatever the sinks and the source did: it tells the status and the end of the error
output, and never a fault of a stream. What comes to the sink of one output, and the faults that
are reported of it, depend on this sink and on neither the other one nor the source. -/
theorem the_status_of_the_process_decides
    (ran₁ : (ofRequest r₁ launch limit capacity).run moves₁ = some c₁)
    (ran₂ : (ofRequest r₂ launch limit capacity).run moves₂ = some c₂)
    (alike : Alike status c₁ c₂ moves₁ moves₂) :
    (c₁.outcome? = c₂.outcome? ∧
      c₁.outcome? = some (if status.word = 0 then .ok ()
        else .error (.exit status (Fault.stderrText (c₁.errorTail moves₁))))) ∧
    (∀ fault, c₁.outcome? = some (.error fault) →
      (∀ s e, fault ≠ .streamCopy s e) ∧ ∀ message causes, fault ≠ .handler message causes) ∧
    ∀ s, s ≠ .stdin → SameSink s moves₁ moves₂ →
      c₁.sunk s = c₂.sunk s ∧ c₁.faultsOf s = c₂.faultsOf s := by
  have h₁ := outcome_of_reaped ran₁ alike.calm.1 alike.ended.1
  have h₂ := outcome_of_reaped ran₂ alike.calm.2 alike.ended.2
  refine ⟨⟨?_, h₁⟩, ?_, fun s h0 sink => told_of_alike ran₁ ran₂ alike h0 sink⟩
  · rw [h₁, h₂, errorTail_of_alike ran₁ ran₂ alike]
  · intro fault hf
    rw [h₁] at hf
    split at hf <;> cases hf
    exact ⟨nofun, nofun⟩

end Twins

/-- The process does what it did in the other course, but the source fails and the sink of the
output is full at once. -/
def brokenCourse : List Move :=
  [.enter, .spawn, .feeder (.sourceFails (.bare .brokenPipe)),
    .childWrites .stdout [0x61, 0x62], .childWrites .stderr [0x65, 0x66, 0x67],
    .copierReads .stdout 1, .copier .stdout (.sink (.takes 0)), .copierReads .stderr 3,
    .copier .stderr (.sink (.takes 3)), .childWrites .stdout [0x63], .copierReads .stdout 2,
    .childCloses .stdout, .childCloses .stderr, .copier .stderr .pipeEnds,
    .copier .stdout .pipeEnds, .childEnds (.exited 3), .copier .stderr .flushed, .poll]

theorem a_full_sink_does_not_change_the_outcome :
    ∃ c₁ c₂, smallCall.run smallCourse = some c₁ ∧ smallCall.run brokenCourse = some c₂ ∧
      Alike (.exited 3) c₁ c₂ smallCourse brokenCourse ∧ c₁.outcome? = c₂.outcome? ∧
      c₁.sunk .stderr = c₂.sunk .stderr ∧ c₁.faultsOf .stderr = c₂.faultsOf .stderr := by
  have hend (moves : List Move) (h : moves = smallCourse ∨ moves = brokenCourse) :
      (smallCall.run moves).map (fun c => (c.cancelled, c.child)) =
        some (false, .reaped (.exited 3)) := by
    rcases h with rfl | rfl <;> rfl
  obtain ⟨c₁, ran₁, h₁⟩ := Option.map_eq_some_iff.mp (hend _ (.inl rfl))
  obtain ⟨c₂, ran₂, h₂⟩ := Option.map_eq_some_iff.mp (hend _ (.inr rfl))
  obtain ⟨calm₁, ended₁⟩ := Prod.mk.inj h₁
  obtain ⟨calm₂, ended₂⟩ := Prod.mk.inj h₂
  have supplies : c₁.supplies = c₂.supplies :=
    (orderly_of_run ran₁).2.supplies.trans (orderly_of_run ran₂).2.supplies.symm
  have alike : Alike (.exited 3) c₁ c₂ smallCourse brokenCourse := by
    refine ⟨⟨calm₁, calm₂⟩, ⟨ended₁, ended₂⟩, supplies, fun s h0 _ => ?_⟩
    cases s with
    | stdin => exact absurd rfl h0
    | stdout | stderr => exact ⟨rfl, rfl, fun h => absurd rfl h⟩
  have decided := the_status_of_the_process_decides ran₁ ran₂ alike
  exact ⟨c₁, c₂, ran₁, ran₂, alike, decided.1.1, decided.2.2 .stderr (by decide) (.inl rfl)⟩

end GitSteward.Call
