-- The outputs of a call go their own ways: each is a line that runs by itself. What has come to
-- the sink of an output and what faults have been reported of it follow from the moves on its own
-- line, in whatever way these are mixed with the moves of the other tasks.
import GitSteward.Proofs.Call.Phases

namespace GitSteward.Call

variable {c c' : Call} {m : Move} {moves : List Move} {s : StreamName} {l : Line}
variable {r : Request} {launch : Launch} {limit capacity : Nat}

/-! ## One move after the other -/

/-- Before the process is started nothing happens on any line. -/
theorem lineMove?_of_notStarted (h : Orderly c) (hn : c.hasStarted = false)
    (hs : c.step m = some c') : m.lineMove? s = none := by
  have none_along {t : StreamName} {lm : LineMove} (ha : c.along t lm = some c') : False := by
    obtain ⟨ht, l, _, _, hl, _⟩ := along_cases ha
    have := h.lines t ht
    simp [hl, hn] at this
  cases m with
  | childWrites | childCloses =>
    simp [Call.step, hn] at hs
  | copierReads t count => exact (none_along hs).elim
  | copier t event =>
    simp only [Call.step] at hs
    split at hs
    · cases hs
    · exact (none_along hs).elim
  | _ => rfl

/-- The line of an output is the one that its own moves lead to, and the faults reported of that
output are those of the line. -/
def RunsAlone (s : StreamName) (moves : List Move) (c : Call) : Prop :=
  match c.line? s with
  | some l => (Line.fresh s (c.keeps s) c.capacity).run (lineMoves s moves) =
      some (l, c.faultsOf s)
  | none => c.faultsOf s = [] ∧ (c.hasStarted = false → lineMoves s moves = [])

theorem lineMoves_snoc (s : StreamName) (moves : List Move) (m : Move) :
    lineMoves s (moves ++ [m]) = lineMoves s moves ++ (m.lineMove? s).toList := by
  simp only [lineMoves, List.filterMap_append]
  cases h : m.lineMove? s <;> simp [h]

theorem lineMove?_of_isMain (hm : m.isMain) : m.lineMove? s = none := by
  cases m <;> first | rfl | simp [Move.isMain] at hm

theorem runsAlone_task (h : RunsAlone s moves c) (t : TaskTurn c m c') (ho : Orderly c)
    (hm : m.isMain) (h0 : s ≠ .stdin) : RunsAlone s (moves ++ [m]) c' := by
  have hmoves : lineMoves s (moves ++ [m]) = lineMoves s moves := by
    rw [lineMoves_snoc, lineMove?_of_isMain hm]
    exact List.append_nil _
  have terms := t.sameTerms
  unfold RunsAlone at h ⊢
  rw [hmoves, terms.keeps, terms.capacity]
  by_cases hsp : m = .spawn
  · subst hsp
    cases t with
    | spawns hp =>
      have hn : c.hasStarted = false := by
        have := ho.inPhase.notStarted (.inr hp)
        simp [hasStarted, this]
      have hl : c.line? s = none := by
        have := ho.lines s h0
        simpa [hn] using this
      simp only [hl] at h
      obtain ⟨hf, hempty⟩ := h
      have hf' : c.spawn.faultsOf s = [] := hf
      rw [line?_spawn h0, hempty hn, hf']
      cases c.supplies s with
      | true => rfl
      | false => exact ⟨rfl, fun hn => by cases hn⟩
  · obtain ⟨hl, hf⟩ := t.lines hsp
    have hfaults : c'.faultsOf s = c.faultsOf s := by rw [faultsOf, faultsOf, hf]
    rw [hl s, hfaults, t.hasStarted ho.inPhase hsp]
    exact h

theorem runsAlone_aside (h : RunsAlone s moves c) (on : OnLine c m c' s) (same : SameTask c c')
    (hn : c.hasStarted = false → m.lineMove? s = none) : RunsAlone s (moves ++ [m]) c' := by
  unfold RunsAlone at h ⊢
  rw [lineMoves_snoc, same.keeps, same.capacity]
  cases on with
  | untouched hm hl hf =>
    rw [hl, hf, same.hasStarted]
    cases hc : c.line? s with
    | none =>
      simp only [hc] at h ⊢
      refine ⟨h.1, fun hns => ?_⟩
      rw [h.2 hns, hn hns]
      rfl
    | some l =>
      have hm : m.lineMove? s = none := by simpa [hc] using hm
      simpa [hc, hm] using h
  | moved l lm l' faults hl hm hstep hl' hf =>
    simp only [hl] at h
    rw [hl', hf, hm]
    exact Line.run_snoc h hstep

/-- Every output runs by itself: whatever else happens in a call, the line of an output and the
faults reported of it are those to which the moves on that line alone lead. -/
theorem runsAlone_of_run (h : (ofRequest r launch limit capacity).run moves = some c)
    (h0 : s ≠ .stdin) : RunsAlone s moves c := by
  refine (run_induct (P := fun moves c => Orderly c ∧ RunsAlone s moves c) ⟨orderly_ofRequest, ?_⟩
    ?_ h).2
  · unfold RunsAlone
    rw [line?_ofRequest]
    exact ⟨rfl, fun _ => rfl⟩
  · intro moves c m c' ⟨ho, ha⟩ hs
    refine ⟨(ho.step hs).1, ?_⟩
    cases hm : m.isMain with
    | true => exact runsAlone_task ha (taskTurn_of_step hs hm) ho hm h0
    | false =>
      obtain ⟨same, on⟩ := aside_of_step ho.named (fun _ => ho.line_none) hs hm
      exact runsAlone_aside ha (on s h0) same fun hn => lineMove?_of_notStarted ho hn hs

/-! ## The books of an output -/

theorem line_of_run (h : (ofRequest r launch limit capacity).run moves = some c)
    (hl : c.line? s = some l) :
    (Line.fresh s ((ofRequest r launch limit capacity).keeps s) capacity).run (lineMoves s moves) =
      some (l, c.faultsOf s) := by
  have h0 : s ≠ .stdin := by
    rintro rfl
    cases hl
  have ha := runsAlone_of_run h h0
  have terms := (orderly_of_run h).2
  unfold RunsAlone at ha
  rw [terms.keeps, terms.capacity] at ha
  simp only [hl] at ha
  exact ha

theorem books_of_line (h : (ofRequest r launch limit capacity).run moves = some c)
    (hl : c.line? s = some l) : ∃ got, l.Books (lineMoves s moves) got :=
  Line.books_of_run (line_of_run h hl)

/-- What the sink of an output has taken. -/
def sunk (c : Call) (s : StreamName) : Bytes := ((c.copierOf s).map (·.taken.bytes)).getD []

theorem sunk_eq (c : Call) (s : StreamName) :
    c.sunk s = ((c.line? s).map (·.copier.taken.bytes)).getD [] := by
  simp [sunk, line?, Function.comp_def]

/-- Everything that has been written to an output, in order. -/
def written (s : StreamName) (moves : List Move) : Bytes := Line.written (lineMoves s moves)

/-- A sink never holds anything but the first bytes of its own output. -/
theorem sunk_le_written (h : (ofRequest r launch limit capacity).run moves = some c)
    (s : StreamName) : c.sunk s <+: written s moves := by
  rw [sunk_eq]
  cases hl : c.line? s with
  | none => exact List.nil_prefix
  | some l =>
    obtain ⟨got, b⟩ := books_of_line h hl
    rw [written, ← b.account]
    exact b.copier.taken.trans (List.prefix_append _ _)

/-! ## A small call -/

/-- A call with all streams, whose pipes hold three bytes each. -/
def smallCall : Call :=
  ofRequest { dir := "/srv/a.git", stdin := some {}, stdout := some {}, stderr := some {} }
    (Launch.ofProgram "git" "/srv/a.git" .empty) 4 3

/-- The process writes its last bytes late. The sinks take single bytes, hesitate, and are still
taking when it is over. -/
def smallCourse : List Move :=
  [.enter, .spawn, .poll,
    .childWrites .stdout [0x61, 0x62], .childWrites .stderr [0x65, 0x66, 0x67],
    .copierReads .stdout 2, .copier .stdout (.sink .notReady),
    .copier .stdout (.sink (.takes 1)), .childWrites .stdout [0x63], .childCloses .stdout,
    .childEnds (.exited 3), .copier .stdout (.sink (.takes 1)), .copierReads .stdout 1,
    .copierReads .stderr 3, .copier .stdout (.sink (.takes 1)), .copier .stdout .pipeEnds, .poll,
    .copier .stderr (.sink (.takes 3)), .childCloses .stderr, .copier .stderr .pipeEnds,
    .copier .stdout .flushed, .copier .stderr .flushed, .poll]

end GitSteward.Call
