-- Nothing that a process writes is lost. When a call tells how its process ended, the sinks of its
-- outputs hold all that was written to these, and have been flushed. At any other time a sink
-- holds the first part of its own output, and nothing else.
import GitSteward.Proofs.Call.Outputs

namespace GitSteward

/-- Whether an outcome tells how the process ended. -/
def Outcome.isVerdict : Outcome → Bool
  | .ok () | .error (.exit _ _) => true
  | _ => false

namespace Call

variable {c : Call} {moves : List Move} {s : StreamName}
variable {r : Request} {launch : Launch} {limit capacity : Nat}

/-- The sink of an output has been flushed after the last byte that it took. -/
def IsFlushed (c : Call) (s : StreamName) : Prop :=
  ∃ copier, c.copierOf s = some copier ∧ copier.isDone ∧ copier.flushed = copier.taken.length

theorem ofStart_isVerdict (e : SystemError) :
    Outcome.isVerdict (.error (Fault.ofStart e)) = false := by
  unfold Fault.ofStart
  split <;> rfl

theorem ofWait_isVerdict (e : SystemError) :
    Outcome.isVerdict (.error (Fault.ofWait e)) = false := by
  unfold Fault.ofWait
  split <;> rfl

/-- Only a call that has waited for its process, after the copiers were done, tells how that
ended. -/
theorem exited_of_verdict {outcome : Outcome} (ho : Orderly c) (h : c.outcome? = some outcome)
    (hv : outcome.isVerdict) :
    ∃ status, c.child = .reaped status ∧ c.copiersDone ∧
      outcome = Outcome.ofExit status c.captured := by
  cases ho.inPhase.returned (phase_of_outcome h) with
  | exited status hc hd => exact ⟨status, hc, hd, rfl⟩
  | notStarted e _ => rw [ofStart_isVerdict] at hv; cases hv
  | waitFailed e _ _ => rw [ofWait_isVerdict] at hv; cases hv
  | refused | killed => cases hv

/-- When the copiers are done, the sink of an output on whose line nothing failed has taken and
flushed everything. -/
theorem delivered_of_done (h : (ofRequest r launch limit capacity).run moves = some c)
    (hd : c.copiersDone) {l : Line} (hl : c.line? s = some l)
    (smooth : ∀ m ∈ lineMoves s moves, m.isSmooth) :
    c.sunk s = written s moves ∧ c.IsFlushed s := by
  have hdone := copiersDone_iff.mp hd s l hl
  have hphase : l.copier.phase = .done := by simpa [Copier.isDone] using hdone
  obtain ⟨got, b⟩ := books_of_line h hl
  have hsmooth := Line.smooth_of_run (line_of_run h hl) smooth
  have hgot := b.whole hdone (Line.pipeErrors_of_smooth smooth)
  have htaken := b.copier.whole hsmooth.ok (by simp [hphase])
  simp only [Copier.pending, hphase, List.append_nil] at htaken
  constructor
  · simp [sunk_eq, hl, htaken, hgot, written]
  · obtain ⟨copier, hc, rfl⟩ := Option.map_eq_some_iff.mp hl
    exact ⟨copier, hc, hdone, hsmooth.flushed hphase⟩

/-- No output is lost, whatever the schedule. At every moment of a call the sink of an output
holds a first part of what has been written to this output by then, and so of all that is ever
written to it. When the call has returned how its process ended, a sink that never failed, on a
pipe that could be read, holds all of it in order and has been flushed. -/
theorem no_output_is_lost (ran : (ofRequest r launch limit capacity).run moves = some c) :
    (∀ before after, moves = before ++ after →
      ∃ b, (ofRequest r launch limit capacity).run before = some b ∧
        ∀ s, b.sunk s <+: written s before ∧ b.sunk s <+: written s moves) ∧
    ∀ outcome, c.outcome? = some outcome → outcome.isVerdict →
      ∀ s, s ≠ .stdin → c.supplies s → (∀ m ∈ lineMoves s moves, m.isSmooth) →
        c.sunk s = written s moves ∧ c.IsFlushed s := by
  constructor
  · intro before after hm
    subst hm
    rw [run_append] at ran
    obtain ⟨b, hb, _⟩ := Option.bind_eq_some_iff.mp ran
    refine ⟨b, hb, fun s => ?_⟩
    have hle := sunk_le_written hb s
    have hwhole : written s (before ++ after) = written s before ++ written s after := by
      simp [written, Line.written, lineMoves]
    refine ⟨hle, ?_⟩
    rw [hwhole]
    exact hle.trans (List.prefix_append _ _)
  · intro outcome hout hv s h0 hsup smooth
    obtain ⟨ho, _⟩ := orderly_of_run ran
    obtain ⟨status, hc, hd, _⟩ := exited_of_verdict ho hout hv
    have hline := ho.lines s h0
    rw [hsup, started_of_reaped hc] at hline
    obtain ⟨l, hl⟩ := Option.isSome_iff_exists.mp hline
    exact delivered_of_done ran hd hl smooth

theorem the_output_of_a_small_call_is_not_lost :
    ∃ c, smallCall.run smallCourse = some c ∧
      c.outcome? = some (Outcome.ofExit (.exited 3) [0x65, 0x66, 0x67]) ∧
      (c.sunk .stdout = [0x61, 0x62, 0x63] ∧ c.IsFlushed .stdout) ∧
      c.sunk .stderr = [0x65, 0x66, 0x67] ∧ c.IsFlushed .stderr := by
  have hend : (smallCall.run smallCourse).map (fun c => (c.outcome?, c.hasStdout, c.hasStderr)) =
      some (some (Outcome.ofExit (.exited 3) [0x65, 0x66, 0x67]), true, true) := rfl
  obtain ⟨c, ran, hc⟩ := Option.map_eq_some_iff.mp hend
  obtain ⟨hout, hstdout, hstderr⟩ : _ ∧ _ ∧ _ := by simpa only [Prod.mk.injEq] using hc
  have whole := (no_output_is_lost ran).2 _ hout rfl
  exact ⟨c, ran, hout, whole .stdout (by decide) hstdout (by decide),
    whole .stderr (by decide) hstderr (by decide)⟩

end Call

end GitSteward
