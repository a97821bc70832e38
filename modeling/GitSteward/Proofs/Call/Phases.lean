-- How far a call has come. At every moment the phase of the main task tells what has happened to
-- the process and to the copiers, and the outcome tells by which way the call has returned.
import GitSteward.Proofs.Call.Moves

namespace GitSteward.Call

variable {c c' : Call} {m : Move} {moves : List Move} {s : StreamName}

/-! ## The invariant -/

/-- The process has been started, and the engine has not waited for it. -/
def IsLive (c : Call) : Prop := c.child = .running ∨ ∃ status, c.child = .ended status

/-- The ways in which a call may have come to its outcome. -/
inductive Ended (c : Call) : Outcome → Prop
  | refused : c.child = .notStarted → c.cancelled → Ended c (.error .cancelled)
  | notStarted (e : SystemError) : c.child = .notStarted → Ended c (.error (Fault.ofStart e))
  | exited (status : WaitStatus) : c.child = .reaped status → c.copiersDone →
      Ended c (Outcome.ofExit status c.captured)
  | waitFailed (e : SystemError) : c.IsLive → c.copiersDone → Ended c (.error (Fault.ofWait e))
  | killed (status : WaitStatus) : c.child = .reaped status → c.cancelled →
      Ended c (.error .cancelled)

/-- What the phase of the main task says of the process and of the copiers. -/
def InPhase (c : Call) : Prop :=
  match c.phase with
  | .entering | .starting => c.child = .notStarted
  | .draining => c.IsLive
  | .waiting => c.IsLive ∧ c.copiersDone
  | .killing => c.IsLive ∧ c.cancelled
  | .returned outcome => c.Ended outcome

theorem inPhase_waiting (hp : c.phase = .waiting) (hl : c.IsLive) (hd : c.copiersDone) :
    c.InPhase := by
  unfold InPhase
  rw [hp]
  exact ⟨hl, hd⟩

theorem inPhase_killing (hp : c.phase = .killing) (hl : c.IsLive) (hx : c.cancelled) :
    c.InPhase := by
  unfold InPhase
  rw [hp]
  exact ⟨hl, hx⟩

theorem inPhase_returned {outcome : Outcome} (hp : c.phase = .returned outcome)
    (h : c.Ended outcome) : c.InPhase := by
  unfold InPhase
  rw [hp]
  exact h

theorem InPhase.notStarted (h : c.InPhase) (hp : c.phase = .entering ∨ c.phase = .starting) :
    c.child = .notStarted := by
  unfold InPhase at h
  rcases hp with hp | hp <;> simpa only [hp] using h

theorem InPhase.waiting (h : c.InPhase) (hp : c.phase = .waiting) : c.IsLive ∧ c.copiersDone := by
  unfold InPhase at h
  simpa only [hp] using h

theorem InPhase.killing (h : c.InPhase) (hp : c.phase = .killing) : c.IsLive ∧ c.cancelled := by
  unfold InPhase at h
  simpa only [hp] using h

theorem InPhase.returned {outcome : Outcome} (h : c.InPhase) (hp : c.phase = .returned outcome) :
    c.Ended outcome := by
  unfold InPhase at h
  simpa only [hp] using h

theorem InPhase.isLive (h : c.InPhase) (hp : c.phase = .draining ∨ c.phase = .waiting) :
    c.IsLive := by
  rcases hp with hp | hp
  · unfold InPhase at h
    simpa only [hp] using h
  · exact (h.waiting hp).1

/-- What holds of a call after each move. -/
structure Orderly (c : Call) : Prop where
  inPhase : c.InPhase
  named : c.Named
  /-- an output is copied when the process has been started and the caller supplied a sink -/
  lines : ∀ s, s ≠ .stdin → (c.line? s).isSome = (c.hasStarted && c.supplies s)
  /-- the copiers are asked to stop only when the call returns -/
  asked : c.stopAsked → c.outcome?.isSome
  /-- no copier has stopped that was not asked to -/
  stopped : ∀ s l, c.line? s = some l → l.copier.phase = .stopped → c.stopAsked

/-! ## The copiers -/

theorem copiersDone_iff : c.copiersDone ↔ ∀ s l, c.line? s = some l → l.copier.isDone := by
  constructor
  · intro h s l hl
    simp only [copiersDone, Bool.and_eq_true] at h
    obtain ⟨copier, hc, rfl⟩ := Option.map_eq_some_iff.mp hl
    cases s with
    | stdin => cases hc
    | stdout =>
      have h1 := h.1
      simp only [copierOf] at hc
      simpa [hc] using h1
    | stderr =>
      have h2 := h.2
      simp only [copierOf] at hc
      simpa [hc] using h2
  · intro h
    have hout := h .stdout
    have herr := h .stderr
    simp only [line?, copierOf, pipeOf] at hout herr
    simp only [copiersDone, Bool.and_eq_true]
    constructor
    · cases hc : c.outCopier <;> simp_all
    · cases hc : c.errCopier <;> simp_all

theorem captured_eq (c : Call) :
    c.captured = ((c.line? .stderr).map (·.copier.captured.bytes)).getD [] := by
  simp [captured, line?, copierOf, Function.comp_def]

/-- A line on which the copier is done is not changed any more, as far as the copier goes. -/
theorem OnLine.done (h : OnLine c m c' s) (hd : c.copiersDone) :
    ∀ l', c'.line? s = some l' → ∃ l, c.line? s = some l ∧ l'.copier = l.copier := by
  intro l' hl'
  cases h with
  | untouched _ hl _ =>
    rw [hl] at hl'
    exact ⟨l', hl', rfl⟩
  | moved l lm k faults hl _ hstep hk _ =>
    rw [hk] at hl'
    cases hl'
    have hdone := copiersDone_iff.mp hd s l hl
    exact ⟨l, hl, ((Line.turn_of_step hstep).done_stays hdone).1⟩

theorem OnLine.isSome (h : OnLine c m c' s) : (c'.line? s).isSome = (c.line? s).isSome := by
  cases h with
  | untouched _ hl _ => rw [hl]
  | moved l _ l' _ hl _ _ hl' => rw [hl, hl']; rfl

/-- Copiers that are done stay so, and what has been kept of the error output stays too. -/
theorem copiersDone_aside (h : ∀ s, s ≠ .stdin → OnLine c m c' s) (hd : c.copiersDone) :
    c'.copiersDone ∧ c'.captured = c.captured := by
  have key : ∀ s l', c'.line? s = some l' → ∃ l, c.line? s = some l ∧ l'.copier = l.copier := by
    intro s l' hl'
    by_cases hs : s = .stdin
    · subst hs
      cases hl'
    · exact (h s hs).done hd l' hl'
  constructor
  · rw [copiersDone_iff]
    intro s l' hl'
    obtain ⟨l, hl, heq⟩ := key s l' hl'
    rw [heq]
    exact copiersDone_iff.mp hd s l hl
  · rw [captured_eq, captured_eq]
    cases hl' : c'.line? .stderr with
    | none =>
      have := (h .stderr (by decide)).isSome
      rw [hl'] at this
      cases hl : c.line? .stderr with
      | none => rfl
      | some l => simp [hl] at this
    | some l' =>
      obtain ⟨l, hl, heq⟩ := key .stderr l' hl'
      simp [hl, heq]

/-! ## What each move keeps -/

theorem SameTask.hasStarted (h : SameTask c c') : c'.hasStarted = c.hasStarted := by
  rw [Call.hasStarted, Call.hasStarted, h.child]

theorem SameTask.outcome? (h : SameTask c c') : c'.outcome? = c.outcome? := by
  rw [Call.outcome?, Call.outcome?, h.phase]

theorem SameTask.isLive (h : SameTask c c') (hl : c.IsLive) : c'.IsLive := by
  unfold IsLive
  rw [h.child]
  exact hl

/-- An outcome stands when the main task is where it was and copiers that were done are done. -/
theorem Ended.aside {outcome : Outcome} (h : c.Ended outcome) (same : SameTask c c')
    (done : c.copiersDone → c'.copiersDone ∧ c'.captured = c.captured) : c'.Ended outcome := by
  cases h with
  | refused hc hx => exact .refused (by rw [same.child, hc]) (by rw [same.cancelled, hx])
  | notStarted e hc => exact .notStarted e (by rw [same.child, hc])
  | exited status hc hd =>
    rw [← (done hd).2]
    exact .exited status (by rw [same.child, hc]) (done hd).1
  | waitFailed e hl hd => exact .waitFailed e (same.isLive hl) (done hd).1
  | killed status hc hx =>
    exact .killed status (by rw [same.child, hc]) (by rw [same.cancelled, hx])

theorem inPhase_aside (h : c.InPhase) (same : SameTask c c')
    (done : c.copiersDone → c'.copiersDone ∧ c'.captured = c.captured) : c'.InPhase := by
  unfold InPhase at h ⊢
  rw [same.phase]
  cases hp : c.phase with
  | entering | starting =>
    simp only [hp] at h ⊢
    rw [same.child, h]
  | draining =>
    simp only [hp] at h ⊢
    exact same.isLive h
  | waiting =>
    simp only [hp] at h ⊢
    exact ⟨same.isLive h.1, (done h.2).1⟩
  | killing =>
    simp only [hp] at h ⊢
    exact ⟨same.isLive h.1, by rw [same.cancelled, h.2]⟩
  | returned outcome =>
    simp only [hp] at h ⊢
    exact h.aside same done

theorem Orderly.line_none (h : Orderly c) (hs : c.supplies s = false) : c.line? s = none := by
  by_cases h0 : s = .stdin
  · subst h0
    rfl
  · have := h.lines s h0
    simpa [hs] using this

/-- A move that is not one of the main task. -/
theorem Orderly.aside (h : Orderly c) (same : SameTask c c')
    (on : ∀ s, s ≠ .stdin → OnLine c m c' s) (hstep : c.step m = some c') : Orderly c' := by
  refine ⟨inPhase_aside h.inPhase same (copiersDone_aside on), ?_, ?_, ?_, ?_⟩
  · intro s l' hl'
    by_cases h0 : s = .stdin
    · subst h0
      cases hl'
    cases on s h0 with
    | untouched _ hl _ => exact h.named s l' (by rw [← hl, hl'])
    | moved l lm k faults hl _ hls hk _ =>
      rw [hk] at hl'
      cases hl'
      rw [(Line.turn_of_step hls).same.1]
      exact h.named s l hl
  · intro s h0
    rw [(on s h0).isSome, h.lines s h0, same.hasStarted, same.supplies]
  · intro ha
    rw [same.outcome?]
    exact h.asked (by rw [← same.stopAsked, ha])
  · intro s l' hl' hst
    rw [same.stopAsked]
    by_cases h0 : s = .stdin
    · subst h0
      cases hl'
    cases on s h0 with
    | untouched _ hl _ => exact h.stopped s l' (by rw [← hl, hl']) hst
    | moved l lm k faults hl hm hls hk _ =>
      rw [hk] at hl'
      cases hl'
      rcases (Line.turn_of_step hls).told_to_stop hst with hst | rfl
      · exact h.stopped s l hl hst
      · exact asked_of_stop hstep hm

/-- When the main task comes to look at the process, the copiers are done. -/
theorem copiersDone_of_awaitsExit (h : c.InPhase) (ha : c.awaitsExit) : c.copiersDone := by
  rcases phase_of_awaitsExit ha with hp | hp
  · unfold awaitsExit at ha
    simp only [hp, Bool.and_eq_true] at ha
    exact ha.2
  · exact (h.waiting hp).2

theorem hasStarted_iff : c.hasStarted ↔ c.child ≠ .notStarted := by simp [hasStarted]

theorem started_of_reaped {status : WaitStatus} (hc : c.child = .reaped status) :
    c.hasStarted := by
  rw [hasStarted_iff, hc]
  simp

theorem IsLive.started (h : c.IsLive) : c.hasStarted := by
  rw [hasStarted_iff]
  rcases h with h | ⟨status, h⟩ <;> rw [h] <;> exact nofun

theorem inPhase_cancel (h : c.InPhase) : ({ c with cancelled := true } : Call).InPhase := by
  unfold InPhase at h ⊢
  cases hp : c.phase with
  | entering | starting | draining | waiting =>
    simp only [hp] at h ⊢
    exact h
  | killing =>
    simp only [hp] at h ⊢
    exact ⟨h.1, trivial⟩
  | returned outcome =>
    simp only [hp] at h ⊢
    cases h with
    | refused hc _ => exact .refused hc rfl
    | notStarted e hc => exact .notStarted e hc
    | exited status hc hd => exact .exited status hc hd
    | waitFailed e hl hd => exact .waitFailed e hl hd
    | killed status hc _ => exact .killed status hc rfl

theorem inPhase_childEnds (h : c.InPhase) (hc : c.child = .running) (status : WaitStatus) :
    ({ c with child := .ended status } : Call).InPhase := by
  have hl : ({ c with child := .ended status } : Call).IsLive := .inr ⟨status, rfl⟩
  unfold InPhase at h ⊢
  cases hp : c.phase with
  | entering | starting => simp [hp, hc] at h
  | draining => simpa [hp] using hl
  | waiting | killing =>
    simp only [hp] at h ⊢
    exact ⟨hl, h.2⟩
  | returned outcome =>
    simp only [hp] at h ⊢
    cases h with
    | waitFailed e _ hd => exact .waitFailed e hl hd
    | refused hc' | notStarted _ hc' | exited _ hc' | killed _ hc' => simp [hc] at hc'

theorem TaskTurn.inPhase (t : TaskTurn c m c') (h : c.InPhase) : c'.InPhase := by
  cases t with
  | cancel => exact inPhase_cancel h
  | refuses hp hx => exact inPhase_returned rfl (.refused (h.notStarted (.inl hp)) hx)
  | enters hp _ => exact h.notStarted (.inl hp)
  | spawns _ => exact .inl rfl
  | spawnFails e hp => exact inPhase_returned rfl (.notStarted e (h.notStarted (.inr hp)))
  | idles => exact h
  | kills hp hx => exact inPhase_killing rfl (h.isLive hp) hx
  | awaits hp ha _ =>
    have hd := copiersDone_of_awaitsExit h ha
    exact inPhase_waiting rfl (h.isLive hp) hd
  | settles status _ ha _ =>
    have hd := copiersDone_of_awaitsExit h ha
    exact inPhase_returned rfl (.exited status rfl hd)
  | waitFails e hp ha =>
    have hd := copiersDone_of_awaitsExit h ha
    exact inPhase_returned rfl (.waitFailed e (h.isLive hp) hd)
  | reaps status hp _ => exact inPhase_returned rfl (.killed status rfl (h.killing hp).2)
  | childEnds status hc => exact inPhase_childEnds h hc status

/-- The process that a main task moves on stays started. -/
theorem TaskTurn.hasStarted (t : TaskTurn c m c') (h : c.InPhase) (hm : m ≠ .spawn) :
    c'.hasStarted = c.hasStarted := by
  cases t with
  | spawns => exact absurd rfl hm
  | settles status hp =>
    rw [(h.isLive hp).started]
    rfl
  | reaps status hp hc =>
    simp only [Call.hasStarted, finish, hc]
    rfl
  | childEnds status hc =>
    simp only [Call.hasStarted, hc]
    rfl
  | _ => rfl

theorem TaskTurn.asked (t : TaskTurn c m c') (h : Orderly c) :
    (c.stopAsked → c'.stopAsked) ∧ (c'.stopAsked → c'.outcome?.isSome) := by
  have before (hn : c.outcome? = none) : ¬ c.stopAsked := by
    intro ha
    have := h.asked ha
    simp [hn] at this
  cases t with
  | cancel | idles | childEnds => exact ⟨id, h.asked⟩
  | refuses | spawnFails => exact ⟨id, fun _ => rfl⟩
  | enters hp _ | spawns hp =>
    have hn := before (by simp [outcome?, hp])
    exact ⟨id, fun ha => absurd ha hn⟩
  | kills hp _ | awaits hp _ _ =>
    have hn := before (by rcases hp with hp | hp <;> simp [outcome?, hp])
    exact ⟨id, fun ha => absurd ha hn⟩
  | settles | waitFails | reaps => exact ⟨fun _ => rfl, fun _ => rfl⟩

/-- The lines of a call whose process has just been started. -/
theorem line?_spawn (hs : s ≠ .stdin) :
    c.spawn.line? s =
      if c.supplies s then some (Line.fresh s (c.keeps s) c.capacity) else none := by
  cases s with
  | stdin => exact absurd rfl hs
  | stdout | stderr =>
    simp only [line?, spawn, copierOf, pipeOf, newCopier]
    split <;> rfl

theorem orderly_spawn (h : Orderly c) (hp : c.phase = .starting) : Orderly c.spawn := by
  have terms := (TaskTurn.spawns hp).sameTerms
  refine ⟨(TaskTurn.spawns hp).inPhase h.inPhase, ?_, ?_, ((TaskTurn.spawns hp).asked h).2, ?_⟩
  · intro s l hl
    by_cases h0 : s = .stdin
    · subst h0
      cases hl
    rw [line?_spawn h0] at hl
    split at hl <;> cases hl
    rfl
  · intro s h0
    rw [line?_spawn h0, terms.supplies]
    cases c.supplies s <;> rfl
  · intro s l hl hst
    by_cases h0 : s = .stdin
    · subst h0
      cases hl
    rw [line?_spawn h0] at hl
    split at hl <;> cases hl
    cases hst

/-- A move of the main task. -/
theorem Orderly.task (h : Orderly c) (t : TaskTurn c m c') : Orderly c' := by
  by_cases hm : m = .spawn
  · subst hm
    cases t with
    | spawns hp => exact orderly_spawn h hp
  · obtain ⟨hl, _⟩ := t.lines hm
    refine ⟨t.inPhase h.inPhase, ?_, ?_, (t.asked h).2, ?_⟩
    · intro s l hs
      exact h.named s l (by rw [← hl s, hs])
    · intro s h0
      rw [hl s, h.lines s h0, t.hasStarted h.inPhase hm, t.sameTerms.supplies]
    · intro s l hs hst
      exact (t.asked h).1 (h.stopped s l (by rw [← hl s, hs]) hst)

/-! ## Before a call returns -/

theorem phase_of_outcome {outcome : Outcome} (h : c.outcome? = some outcome) :
    c.phase = .returned outcome := by
  unfold outcome? at h
  split at h
  · rename_i hp
    cases h
    exact hp
  · cases h

theorem phase_of_started (ho : Orderly c) (calm : c.cancelled = false)
    (unreturned : c.outcome? = none) (hs : c.hasStarted) :
    c.phase = .draining ∨ c.phase = .waiting := by
  rw [hasStarted_iff] at hs
  cases hp : c.phase with
  | entering => exact absurd (ho.inPhase.notStarted (.inl hp)) hs
  | starting => exact absurd (ho.inPhase.notStarted (.inr hp)) hs
  | draining => exact .inl rfl
  | waiting => exact .inr rfl
  | killing => simpa [calm] using ho.inPhase.killing hp
  | returned outcome => simp [outcome?, hp] at unreturned

theorem not_reaped (ho : Orderly c) (calm : c.cancelled = false) (unreturned : c.outcome? = none)
    (status : WaitStatus) : c.child ≠ .reaped status := by
  intro hc
  have hp := phase_of_started ho calm unreturned (started_of_reaped hc)
  have hl := ho.inPhase.isLive hp
  simp [IsLive, hc] at hl

/-! ## Runs -/

section Runs

variable {r : Request} {launch : Launch} {limit capacity : Nat}

theorem run_append (c : Call) (first second : List Move) :
    c.run (first ++ second) = (c.run first).bind (·.run second) := by
  induction first generalizing c with
  | nil => rfl
  | cons m rest ih =>
    simp only [List.cons_append, run]
    cases c.step m with
    | none => rfl
    | some after => exact ih after

/-- What holds of a call at the start and is kept by each move holds after any moves. -/
theorem run_induct {start : Call} {P : List Move → Call → Prop} (init : P [] start)
    (next : ∀ {moves c m c'}, P moves c → c.step m = some c' → P (moves ++ [m]) c')
    (h : start.run moves = some c) : P moves c := by
  suffices key : ∀ (rest before : List Move) (k : Call), P before k → k.run rest = some c →
      P (before ++ rest) c from key moves [] start init h
  intro rest
  induction rest with
  | nil =>
    intro before k hk hr
    cases hr
    rwa [List.append_nil]
  | cons m rest ih =>
    intro before k hk hr
    obtain ⟨after, hstep, hr⟩ := Option.bind_eq_some_iff.mp hr
    have := ih (before ++ [m]) after (next hk hstep) hr
    rwa [List.append_assoc] at this

theorem line?_ofRequest (s : StreamName) : (ofRequest r launch limit capacity).line? s = none := by
  cases s <;> rfl

theorem orderly_ofRequest : Orderly (ofRequest r launch limit capacity) := by
  refine ⟨rfl, ?_, ?_, nofun, ?_⟩
  · intro s l hl
    rw [line?_ofRequest] at hl
    cases hl
  · intro s _
    rw [line?_ofRequest]
    rfl
  · intro s l hl
    rw [line?_ofRequest] at hl
    cases hl

/-- A move is one of the main task, or it leaves the main task as it is. -/
theorem Orderly.turn (h : Orderly c) (hs : c.step m = some c') :
    TaskTurn c m c' ∨ (m.isMain = false ∧ SameTask c c') := by
  cases hm : m.isMain with
  | true => exact .inl (taskTurn_of_step hs hm)
  | false => exact .inr ⟨rfl, (aside_of_step h.named (fun _ => h.line_none) hs hm).1⟩

/-- Each move keeps the call orderly, and nothing that the caller settled changes. -/
theorem Orderly.step (h : Orderly c) (hs : c.step m = some c') : Orderly c' ∧ SameTerms c c' := by
  cases hm : m.isMain with
  | true =>
    have t := taskTurn_of_step hs hm
    exact ⟨h.task t, t.sameTerms⟩
  | false =>
    obtain ⟨same, on⟩ := aside_of_step h.named (fun _ => h.line_none) hs hm
    exact ⟨h.aside same on hs, same.toSameTerms⟩

theorem orderly_of_run (h : (ofRequest r launch limit capacity).run moves = some c) :
    Orderly c ∧ SameTerms (ofRequest r launch limit capacity) c := by
  refine run_induct (P := fun _ c => Orderly c ∧ SameTerms (ofRequest r launch limit capacity) c)
    ⟨orderly_ofRequest, .refl _⟩ ?_ h
  intro moves c m c' ⟨ho, terms⟩ hs
  obtain ⟨ho', terms'⟩ := ho.step hs
  exact ⟨ho', ⟨terms'.supplies.trans terms.supplies, terms'.keeps.trans terms.keeps,
    terms'.capacity.trans terms.capacity⟩⟩

/-- What holds of a call as it is made and is kept by each move of an orderly call holds after
any moves. -/
theorem orderly_induct {P : List Move → Call → Prop}
    (init : P [] (ofRequest r launch limit capacity))
    (next : ∀ {moves c m c'}, (ofRequest r launch limit capacity).run moves = some c → Orderly c →
      P moves c → c.step m = some c' → P (moves ++ [m]) c')
    (h : (ofRequest r launch limit capacity).run moves = some c) : P moves c := by
  refine (run_induct (P := fun moves c =>
    (ofRequest r launch limit capacity).run moves = some c ∧ P moves c) ⟨rfl, init⟩ ?_ h).2
  intro moves c m c' ⟨ran, hp⟩ hs
  have ran' : (ofRequest r launch limit capacity).run (moves ++ [m]) = some c' := by
    simp only [run_append, ran, run, hs, Option.bind_some]
  exact ⟨ran', next ran (orderly_of_run ran).1 hp hs⟩

end Runs

end GitSteward.Call
