-- When a call is cancelled, and what has become of its process when it returns. The main task looks
-- at the token before the hook and each time that it looks around, and the look with which its
-- waiting ends decides. Whatever the outcome, the process is gone by then, unless waiting for it
-- has failed.
import GitSteward.Proofs.Call.Outputs

namespace GitSteward

theorem Fault.ofStart_ne_cancelled (e : SystemError) : Fault.ofStart e ≠ .cancelled := by
  unfold Fault.ofStart
  split <;> exact nofun

theorem Fault.ofWait_ne_cancelled (e : SystemError) : Fault.ofWait e ≠ .cancelled := by
  unfold Fault.ofWait
  split <;> exact nofun

theorem Outcome.ofExit_ne_cancelled (status : WaitStatus) (captured : Bytes) :
    Outcome.ofExit status captured ≠ .error .cancelled := by
  unfold Outcome.ofExit
  split <;> exact nofun

namespace Call

variable {c c' start : Call} {m : Move} {moves : List Move}
variable {r : Request} {launch : Launch} {limit capacity : Nat}

/-! ## The looks that decide -/

/-- Whether the main task waits for the copiers or for the process. -/
def isAwaiting (c : Call) : Bool := c.phase matches .draining | .waiting

/-- A move in which the main task looks at the token, and what it sees there decides: the one
before the hook, and the one with which its waiting ends. -/
def Decides (c : Call) (m : Move) (c' : Call) : Prop :=
  m = .enter ∨ (c.isAwaiting ∧ c'.isAwaiting = false)

/-- In the course of a call the token was cancelled when such a look was taken. -/
def FoundCancelled (start : Call) (moves : List Move) : Prop :=
  ∃ before m after b b', moves = before ++ m :: after ∧ start.run before = some b ∧
    b.step m = some b' ∧ b.Decides m b' ∧ b.cancelled

theorem foundCancelled_snoc (ran : start.run moves = some c) (hs : c.step m = some c') :
    FoundCancelled start (moves ++ [m]) ↔
      FoundCancelled start moves ∨ (c.Decides m c' ∧ c.cancelled) := by
  constructor
  · rintro ⟨before, m₁, after, b, b', hmoves, hb, hb', hd, hx⟩
    rcases List.eq_nil_or_concat after with rfl | ⟨rest, last, rfl⟩
    · obtain ⟨rfl, hm⟩ := List.append_inj' hmoves rfl
      cases hm
      rw [ran] at hb
      cases hb
      rw [hs] at hb'
      cases hb'
      exact .inr ⟨hd, hx⟩
    · rw [List.concat_eq_append, ← List.cons_append, ← List.append_assoc] at hmoves
      exact .inl ⟨before, m₁, rest, b, b', (List.append_inj' hmoves rfl).1, hb, hb', hd, hx⟩
  · rintro (⟨before, m₁, after, b, b', rfl, h⟩ | ⟨hd, hx⟩)
    · exact ⟨before, m₁, after ++ [m], b, b', by simp, h⟩
    · exact ⟨moves, m, [], c, c', rfl, ran, hs, hd, hx⟩

/-- What the phase of the main task says of such a look. -/
def Decided (c : Call) (found : Prop) : Prop :=
  match c.phase with
  | .entering | .starting | .draining | .waiting => ¬ found
  | .killing => found
  | .returned outcome => outcome = .error .cancelled ↔ found

theorem calm_of_awaitsExit (h : c.awaitsExit) : c.cancelled = false := by
  unfold awaitsExit at h
  simp only [Bool.and_eq_true, Bool.not_eq_true'] at h
  exact h.1

theorem isAwaiting_iff : c.isAwaiting ↔ c.phase = .draining ∨ c.phase = .waiting := by
  unfold isAwaiting
  cases hp : c.phase <;> simp

/-- A move that leaves the phase as it is decides nothing, but for the one before the hook. -/
theorem not_decides (hp : c'.phase = c.phase) (hm : m ≠ .enter) : ¬ c.Decides m c' := by
  rintro (rfl | ⟨ha, hn⟩)
  · exact hm rfl
  · have same : c'.isAwaiting = c.isAwaiting := by rw [isAwaiting, isAwaiting, hp]
    rw [same, ha] at hn
    cases hn

theorem Decided.same {found : Prop} (h : c.Decided found) (hp : c'.phase = c.phase)
    (hm : m ≠ .enter) : c'.Decided (found ∨ (c.Decides m c' ∧ c.cancelled)) := by
  have hn : found ∨ (c.Decides m c' ∧ c.cancelled) ↔ found :=
    ⟨fun h => h.resolve_right fun hd => not_decides hp hm hd.1, .inl⟩
  unfold Decided at h ⊢
  simpa only [hp, hn] using h

theorem Decided.not_found {found : Prop} (h : c.Decided found)
    (hp : c.phase = .entering ∨ c.phase = .starting ∨ c.phase = .draining ∨ c.phase = .waiting) :
    ¬ found := by
  unfold Decided at h
  rcases hp with hp | hp | hp | hp <;> simpa only [hp] using h

theorem TaskTurn.decided {found : Prop} (t : TaskTurn c m c') (h : c.Decided found) :
    c'.Decided (found ∨ (c.Decides m c' ∧ c.cancelled)) := by
  cases t with
  | cancel | childEnds => exact h.same rfl nofun
  | idles => exact h.same rfl nofun
  | refuses hp hx => exact ⟨fun _ => .inr ⟨.inl rfl, hx⟩, fun _ => rfl⟩
  | enters hp hx =>
    rintro (hf | ⟨_, hc⟩)
    · exact h.not_found (.inl hp) hf
    · simp [hx] at hc
  | spawns hp =>
    rintro (hf | ⟨hd, _⟩)
    · exact h.not_found (.inr (.inl hp)) hf
    · simp [Decides, isAwaiting, hp] at hd
  | spawnFails e hp =>
    constructor
    · intro he
      exact absurd (Except.error.inj he) (Fault.ofStart_ne_cancelled e)
    · rintro (hf | ⟨hd, _⟩)
      · exact absurd hf (h.not_found (.inr (.inl hp)))
      · simp [Decides, isAwaiting, hp] at hd
  | kills hp hx => exact .inr ⟨.inr ⟨isAwaiting_iff.mpr hp, rfl⟩, hx⟩
  | awaits hp ha _ =>
    rintro (hf | ⟨_, hc⟩)
    · exact h.not_found (.inr (.inr hp)) hf
    · simp [calm_of_awaitsExit ha] at hc
  | settles status hp ha _ =>
    constructor
    · intro he
      exact absurd he (Outcome.ofExit_ne_cancelled status c.captured)
    · rintro (hf | ⟨_, hc⟩)
      · exact absurd hf (h.not_found (.inr (.inr hp)))
      · simp [calm_of_awaitsExit ha] at hc
  | waitFails e hp ha =>
    constructor
    · intro he
      exact absurd (Except.error.inj he) (Fault.ofWait_ne_cancelled e)
    · rintro (hf | ⟨_, hc⟩)
      · exact absurd hf (h.not_found (.inr (.inr hp)))
      · simp [calm_of_awaitsExit ha] at hc
  | reaps status hp _ =>
    have hf : found := by
      unfold Decided at h
      simpa only [hp] using h
    exact ⟨fun _ => .inl hf, fun _ => rfl⟩

theorem decided_of_run (ran : (ofRequest r launch limit capacity).run moves = some c) :
    c.Decided (FoundCancelled (ofRequest r launch limit capacity) moves) := by
  refine orderly_induct
    (P := fun moves c => c.Decided (FoundCancelled (ofRequest r launch limit capacity) moves))
    ?_ ?_ ran
  · rintro ⟨before, m, after, _, _, hmoves, _⟩
    simp at hmoves
  · intro moves c m c' ran ho hd hs
    rw [propext (foundCancelled_snoc ran hs)]
    rcases ho.turn hs with t | ⟨hm, same⟩
    · exact t.decided hd
    · exact hd.same same.phase (by rintro rfl; cases hm)

/-- The token is cancelled by someone, and only then. -/
theorem cancel_of_cancelled (ran : (ofRequest r launch limit capacity).run moves = some c)
    (hx : c.cancelled) : .cancel ∈ moves := by
  refine orderly_induct (P := fun moves c => c.cancelled → .cancel ∈ moves) nofun ?_ ran hx
  intro moves c m c' _ ho h hs hx
  rcases ho.turn hs with t | ⟨_, same⟩
  · cases t with
    | cancel => exact List.mem_append_right _ (List.mem_singleton.mpr rfl)
    | _ => exact List.mem_append_left _ (h hx)
  · exact List.mem_append_left _ (h (same.cancelled ▸ hx))

theorem cancel_of_foundCancelled
    (h : FoundCancelled (ofRequest r launch limit capacity) moves) : .cancel ∈ moves := by
  obtain ⟨before, m, after, b, b', rfl, hb, _, _, hx⟩ := h
  exact List.mem_append_left _ (cancel_of_cancelled hb hx)

/-! ## The end of the process -/

/-- How it came that the process of a call that has returned is gone. -/
inductive Gone (c : Call) (moves : List Move) : Outcome → Prop
  /-- the token was cancelled before the hook -/
  | refused : c.child = .notStarted → Gone c moves (.error .cancelled)
  | notStarted (e : SystemError) : c.child = .notStarted →
      Gone c moves (.error (Fault.ofStart e))
  | awaited (status : WaitStatus) : c.child = .reaped status →
      Gone c moves (Outcome.ofExit status c.captured)
  | killed (status : WaitStatus) : .reap ∈ moves → c.child = .reaped status →
      Gone c moves (.error .cancelled)
  /-- the only way to lose sight of a process -/
  | lost (e : SystemError) : (∃ e, .waitFails e ∈ moves) → Gone c moves (.error (Fault.ofWait e))

/-- How the moves of a call that has returned show what became of its process. -/
structure Accounted (moves : List Move) (c : Call) : Prop where
  lost : c.outcome?.isSome → c.IsLive → ∃ e, .waitFails e ∈ moves
  killed : ∀ status, c.outcome? = some (.error .cancelled) → c.child = .reaped status →
    .reap ∈ moves

theorem Accounted.same (h : Accounted moves c) (ho : c'.outcome? = c.outcome?)
    (hc : c'.child = c.child) : Accounted (moves ++ [m]) c' := by
  constructor
  · intro hout hl
    have hl : c.IsLive := by
      unfold IsLive at hl ⊢
      rwa [hc] at hl
    obtain ⟨e, he⟩ := h.lost (ho ▸ hout) hl
    exact ⟨e, List.mem_append_left _ he⟩
  · intro status hout hr
    exact List.mem_append_left _ (h.killed status (ho ▸ hout) (hc ▸ hr))

theorem accounted_unreturned (hn : c.outcome? = none) : Accounted moves c := by
  constructor
  · intro hout
    simp [hn] at hout
  · intro status hout
    simp [hn] at hout

theorem accounted_notStarted (hc : c.child = .notStarted) : Accounted moves c := by
  constructor
  · intro _ hl
    simp [IsLive, hc] at hl
  · intro status _ hr
    simp [hc] at hr

theorem TaskTurn.accounted (t : TaskTurn c m c') (h : Accounted moves c) (hp : c.InPhase) :
    Accounted (moves ++ [m]) c' := by
  cases t with
  | cancel | idles => exact h.same rfl rfl
  | refuses hph _ => exact accounted_notStarted (hp.notStarted (.inl hph))
  | spawnFails e hph => exact accounted_notStarted (hp.notStarted (.inr hph))
  | enters | spawns | kills | awaits => exact accounted_unreturned rfl
  | settles status =>
    refine ⟨fun _ hl => by simp [IsLive, finish] at hl, fun _ hout _ => ?_⟩
    exact absurd (Option.some.inj hout) (Outcome.ofExit_ne_cancelled status c.captured)
  | waitFails e =>
    refine ⟨fun _ _ => ⟨e, by simp⟩, fun _ hout _ => ?_⟩
    exact absurd (Except.error.inj (Option.some.inj hout)) (Fault.ofWait_ne_cancelled e)
  | reaps status =>
    refine ⟨fun _ hl => by simp [IsLive, finish] at hl, fun _ _ _ => by simp⟩
  | childEnds status hc =>
    refine ⟨fun hout _ => ?_, fun _ _ hr => by cases hr⟩
    obtain ⟨e, he⟩ := h.lost hout (.inl hc)
    exact ⟨e, List.mem_append_left _ he⟩

theorem accounted_of_run (ran : (ofRequest r launch limit capacity).run moves = some c) :
    Accounted moves c := by
  refine orderly_induct (accounted_notStarted rfl) ?_ ran
  intro moves c m c' _ ho h hs
  rcases ho.turn hs with t | ⟨_, same⟩
  · exact t.accounted h ho.inPhase
  · exact h.same same.outcome? same.child

theorem gone_of_run (ran : (ofRequest r launch limit capacity).run moves = some c)
    {outcome : Outcome} (hout : c.outcome? = some outcome) : c.Gone moves outcome := by
  have acc := accounted_of_run ran
  cases (orderly_of_run ran).1.inPhase.returned (phase_of_outcome hout) with
  | refused hc _ => exact .refused hc
  | notStarted e hc => exact .notStarted e hc
  | exited status hc _ => exact .awaited status hc
  | waitFailed e hl _ => exact .lost e (acc.lost (by simp [hout]) hl)
  | killed status hc _ => exact .killed status (acc.killed status hout hc) hc

theorem reap_returns {status : WaitStatus} (hp : c.phase = .killing)
    (hc : c.child = .ended status) :
    ∃ c', c.run [.reap] = some c' ∧ c'.outcome? = some (.error .cancelled) := by
  refine ⟨({ c with child := .reaped status } : Call).finish (.error .cancelled), ?_, rfl⟩
  simp only [run, step, hp, hc, Option.bind_some]

/-- A call returns when the process that it has killed has ended. -/
theorem killing_returns (hp : c.phase = .killing) (hl : c.IsLive) :
    ∃ rest c', c.run rest = some c' ∧ c'.outcome? = some (.error .cancelled) := by
  rcases hl with hc | ⟨status, hc⟩
  · let dead : Call := { c with child := .ended (.signaled 9) }
    obtain ⟨c', ran, hout⟩ := reap_returns (c := dead) hp rfl
    refine ⟨.childEnds (.signaled 9) :: [.reap], c', ?_, hout⟩
    rw [run, step, hc]
    exact ran
  · obtain ⟨c', ran, hout⟩ := reap_returns hp hc
    exact ⟨[.reap], c', ran, hout⟩

/-! ## The law -/

/-- How cancelling a call shows in what it returns and in what becomes of its process. -/
structure CancelledExactly (start : Call) (moves : List Move) (c : Call) : Prop where
  outcome : ∀ outcome, c.outcome? = some outcome →
    (outcome = .error .cancelled ↔ FoundCancelled start moves)
  caller : FoundCancelled start moves → .cancel ∈ moves
  /-- nothing but the end of the killed process is awaited then -/
  returns : FoundCancelled start moves → c.outcome? = some (.error .cancelled) ∨
    (c.phase = .killing ∧
      ∃ rest c', c.run rest = some c' ∧ c'.outcome? = some (.error .cancelled))
  gone : ∀ outcome, c.outcome? = some outcome → c.Gone moves outcome
  /-- no process is left behind, as long as processes can be waited for -/
  reaped : (∀ e, .waitFails e ∉ moves) → c.outcome?.isSome → c.hasStarted →
    ∃ status, c.child = .reaped status

/-- Cancelling is exact, and leaves no process behind. A call returns that it was cancelled just
when the token was cancelled as the main task looked at it before the hook, or as its waiting came
to an end, so never when nobody cancelled it. By whatever way it returns, the process was never
started, or has been waited for, or has been killed and waited for. -/
theorem cancellation_is_exact (ran : (ofRequest r launch limit capacity).run moves = some c) :
    CancelledExactly (ofRequest r launch limit capacity) moves c := by
  have ho := (orderly_of_run ran).1
  have decided := decided_of_run ran
  refine ⟨?_, cancel_of_foundCancelled, ?_, fun _ => gone_of_run ran, ?_⟩
  · intro outcome hout
    unfold Decided at decided
    simpa only [phase_of_outcome hout] using decided
  · intro found
    cases hp : c.phase with
    | killing => exact .inr ⟨rfl, killing_returns hp (ho.inPhase.killing hp).1⟩
    | returned outcome =>
      unfold Decided at decided
      simp only [hp] at decided
      exact .inl (by rw [outcome?, hp, decided.mpr found])
    | entering | starting | draining | waiting =>
      exact absurd found (decided.not_found (by simp [hp]))
  · intro waits hout hs
    obtain ⟨outcome, hout⟩ := Option.isSome_iff_exists.mp hout
    rw [hasStarted_iff] at hs
    cases gone_of_run ran hout with
    | refused hc | notStarted _ hc => exact absurd hc hs
    | awaited status hc | killed status _ hc => exact ⟨status, hc⟩
    | lost _ h =>
      obtain ⟨e, he⟩ := h
      exact absurd he (waits e)

/-- The token is cancelled when the copiers are done, and the process ends by itself before the
main task looks around again. -/
def lateCourse : List Move :=
  [.enter, .spawn, .childCloses .stdout, .childCloses .stderr, .copier .stdout .pipeEnds,
    .copier .stderr .pipeEnds, .copier .stdout .flushed, .copier .stderr .flushed, .poll, .cancel,
    .childEnds (.exited 0), .poll, .reap]

theorem a_call_cancelled_in_the_end_is_cancelled :
    ∃ c, smallCall.run lateCourse = some c ∧ c.outcome? = some (.error .cancelled) ∧
      FoundCancelled smallCall lateCourse ∧ ∃ status, c.child = .reaped status := by
  have hend : (smallCall.run lateCourse).map (fun c => (c.outcome?, c.hasStarted)) =
      some (some (.error .cancelled), true) := rfl
  obtain ⟨c, ran, hc⟩ := Option.map_eq_some_iff.mp hend
  obtain ⟨hout, hs⟩ := Prod.mk.inj hc
  have exact := cancellation_is_exact ran
  exact ⟨c, ran, hout, (exact.outcome _ hout).mp rfl,
    exact.reaped (by simp [lateCourse]) (by rw [hout]; rfl) hs⟩

end Call

end GitSteward
