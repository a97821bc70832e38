-- How a call begins. Until the main task has looked at the token nothing is touched, and a call
-- that is turned away there stays like that. In every other call the hook runs once, sees the
-- process as it was put together, and what it leaves is started, but for the streams.
import GitSteward.Proofs.Call.Phases

namespace GitSteward

/-- What a hook leaves of a process that is about to be started. -/
def Launch.changedBy (l : Launch) (hook : Option Hook) : Launch :=
  (hook.map fun change => change l).getD l

namespace Call

variable {c c' : Call} {m : Move} {moves : List Move} {s : StreamName}
variable {hook : Option Hook} {given : Launch} {r : Request} {limit capacity : Nat}

/-! ## How far a call has come -/

/-- No process was started, and there is no task that reads from the source of the caller, writes
to a sink, or reports a fault. -/
structure Untouched (c : Call) : Prop where
  child : c.child = .notStarted
  feeder : c.feeder = none
  copiers : c.outCopier = none ∧ c.errCopier = none
  faults : c.faults = []

/-- The main task has not looked at the token yet, or has turned the call away. -/
structure Unseen (hook : Option Hook) (given : Launch) (c : Call) : Prop where
  phase : c.phase = .entering ∨ c.phase = .returned (.error .cancelled)
  untouched : c.Untouched
  pending : c.hook = hook
  launch : c.launch = given
  shown : c.shown = []

/-- The hook has run, and the process has not been started, or could not be. -/
structure Prepared (hook : Option Hook) (given : Launch) (c : Call) : Prop where
  phase : c.phase = .starting ∨ ∃ e, c.phase = .returned (.error (Fault.ofStart e))
  untouched : c.Untouched
  launch : c.launch = given.changedBy hook
  shown : c.shown = (hook.map fun _ => given).toList

/-- The process has been started. -/
structure Launched (hook : Option Hook) (given : Launch) (c : Call) : Prop where
  started : c.hasStarted
  launch : c.launch = (given.changedBy hook).withStreams
    (c.supplies .stdin) (c.supplies .stdout) (c.supplies .stderr)
  shown : c.shown = (hook.map fun _ => given).toList

/-- How far a call has come with the start of its process. -/
inductive Begun (hook : Option Hook) (given : Launch) (c : Call) : Prop
  | unseen : Unseen hook given c → Begun hook given c
  | prepared : Prepared hook given c → Begun hook given c
  | launched : Launched hook given c → Begun hook given c

/-! ## Before the process is started -/

theorem Untouched.line? (h : c.Untouched) : c.line? s = none := by
  cases s <;> simp [Call.line?, copierOf, h.copiers]

/-- Only the main task does anything then. -/
theorem Untouched.aside (h : c.Untouched) (hm : m.isMain = false) : c.step m = none := by
  cases m with
  | childWrites | childCloses | childReads | childSeesEnd => simp [step, hasStarted, h.child]
  | copierReads | copier => simp [step, along, h.line?]
  | feeder => simp [step, feed, stepFeeder, h.feeder]
  | cancel | enter | spawn | spawnFails | poll | waitFails | reap | childEnds =>
    simp [Move.isMain] at hm

/-- Only a process that was started is ever killed. -/
theorem not_killing (ho : Orderly c) (hn : c.hasStarted = false) : c.isKilling = false := by
  cases hp : c.phase with
  | killing => simp [(ho.inPhase.killing hp).1.started] at hn
  | entering | starting | draining | waiting | returned => simp [isKilling, hp]

theorem Untouched.same (h : c.Untouched) (hc : c'.child = c.child) (hf : c'.feeder = c.feeder)
    (hk : c'.outCopier = c.outCopier ∧ c'.errCopier = c.errCopier) (hx : c'.faults = c.faults) :
    c'.Untouched :=
  ⟨hc.trans h.child, hf.trans h.feeder, ⟨hk.1.trans h.copiers.1, hk.2.trans h.copiers.2⟩,
    hx.trans h.faults⟩

/-- Only the look at the token leads on, when that is not cancelled. -/
theorem Unseen.task (h : Unseen hook given c) (t : TaskTurn c m c') :
    Unseen hook given c' ∨ (c.cancelled = false ∧ Prepared hook given c') := by
  have hu : c.Untouched := h.untouched
  have elsewhere {p : CallPhase} (hp : c.phase = p) :
      p = .entering ∨ p = .returned (.error .cancelled) := hp ▸ h.phase
  cases t with
  | cancel => exact .inl ⟨h.phase, hu.same rfl rfl ⟨rfl, rfl⟩ rfl, h.pending, h.launch, h.shown⟩
  | refuses => exact .inl ⟨.inr rfl, hu.same rfl rfl ⟨rfl, rfl⟩ rfl, h.pending, h.launch, h.shown⟩
  | enters _ hx =>
    refine .inr ⟨hx, .inl rfl, hu.same rfl rfl ⟨rfl, rfl⟩ rfl, ?_, ?_⟩
    · simp only [h.pending, h.launch, Launch.changedBy]
    · simp only [h.pending, h.launch, h.shown, List.nil_append]
  | spawns hp | spawnFails _ hp | idles hp => rcases elsewhere hp with hp | hp <;> cases hp
  | kills hp | awaits hp | settles _ hp | waitFails _ hp =>
    rcases hp with hp | hp <;> rcases elsewhere hp with hp | hp <;> cases hp
  | reaps _ _ hc | childEnds _ hc => simp [hu.child] at hc

theorem Prepared.launched (h : Prepared hook given c) : Launched hook given c.spawn := by
  refine ⟨rfl, ?_, h.shown⟩
  simp only [spawn, h.launch]
  rfl

theorem Prepared.refused (h : Prepared hook given c) (e : SystemError) :
    Prepared hook given (c.refuse (.error (Fault.ofStart e))) :=
  ⟨.inr ⟨e, rfl⟩, h.untouched.same rfl rfl ⟨rfl, rfl⟩ rfl, h.launch, h.shown⟩

/-- What the hook has left can be started. -/
theorem Prepared.starts (h : Prepared hook given c) (hp : c.phase = .starting) :
    ∃ c', c.step .spawn = some c' ∧ Launched hook given c' :=
  ⟨c.spawn, by simp only [step, hp, if_true], h.launched⟩

/-- If it turns out that it cannot be started, that is the outcome. -/
theorem Prepared.fails (h : Prepared hook given c) (hp : c.phase = .starting) (e : SystemError) :
    ∃ c', c.step (.spawnFails e) = some c' ∧ Prepared hook given c' ∧
      c'.outcome? = some (.error (Fault.ofStart e)) :=
  ⟨_, by simp only [step, hp, if_true], h.refused e, rfl⟩

/-- After the hook the process is started, or cannot be. -/
theorem Prepared.task (h : Prepared hook given c) (t : TaskTurn c m c') :
    Begun hook given c' := by
  have hu : c.Untouched := h.untouched
  have elsewhere {p : CallPhase} (hp : c.phase = p) :
      p = .starting ∨ ∃ e, p = .returned (.error (Fault.ofStart e)) := hp ▸ h.phase
  cases t with
  | cancel => exact .prepared ⟨h.phase, hu.same rfl rfl ⟨rfl, rfl⟩ rfl, h.launch, h.shown⟩
  | spawns => exact .launched h.launched
  | spawnFails e => exact .prepared (h.refused e)
  | refuses hp | enters hp | idles hp => rcases elsewhere hp with hp | ⟨_, hp⟩ <;> cases hp
  | kills hp | awaits hp | settles _ hp | waitFails _ hp =>
    rcases hp with hp | hp <;> rcases elsewhere hp with hp | ⟨_, hp⟩ <;> cases hp
  | reaps _ _ hc | childEnds _ hc => simp [hu.child] at hc

/-! ## When the process has been started -/

/-- What is to be started, the hook and what it was shown are the same. -/
structure SameStart (c c' : Call) : Prop where
  launch : c'.launch = c.launch
  shown : c'.shown = c.shown

theorem SameStart.refl (c : Call) : SameStart c c := ⟨rfl, rfl⟩

theorem sameStart_setLine (c : Call) (l : Line) (faults : List Fault) (t : StreamName) :
    SameStart c { c.setLine l t with faults } := by
  cases t <;> exact ⟨rfl, rfl⟩

theorem sameStart_along {lm : LineMove} (h : c.along s lm = some c') : SameStart c c' := by
  obtain ⟨_, l, l', faults, _, _, rfl⟩ := along_cases h
  exact sameStart_setLine c l' _ s

theorem sameStart_aside (h : c.step m = some c') (hm : m.isMain = false) : SameStart c c' := by
  cases m with
  | childWrites t bytes =>
    simp only [step] at h
    split at h
    · cases h
    · split at h
      · exact sameStart_along h
      · cases h
        exact .refl c
  | childCloses t =>
    simp only [step] at h
    split at h
    · cases h
    · split at h
      · cases h
        exact ⟨rfl, rfl⟩
      · split at h
        · exact sameStart_along h
        · cases h
          exact .refl c
  | childReads count =>
    simp only [step] at h
    split at h
    · obtain ⟨_, _, rfl⟩ := Option.map_eq_some_iff.mp h
      exact ⟨rfl, rfl⟩
    · cases h
  | childSeesEnd =>
    simp only [step] at h
    split at h
    · cases h
      exact .refl c
    · cases h
  | copierReads t count => exact sameStart_along h
  | copier t event =>
    simp only [step] at h
    split at h
    · cases h
    · exact sameStart_along h
  | feeder event =>
    obtain ⟨_, _, _, _, rfl⟩ := feed_cases h
    exact ⟨rfl, rfl⟩
  | cancel | enter | spawn | spawnFails | poll | waitFails | reap | childEnds =>
    simp [Move.isMain] at hm

theorem Launched.same (h : Launched hook given c) (hs : c'.hasStarted = c.hasStarted)
    (ht : SameTerms c c') (hl : SameStart c c') : Launched hook given c' := by
  refine ⟨hs.trans h.started, ?_, hl.shown.trans h.shown⟩
  rw [hl.launch, h.launch, ht.supplies]

/-- A process is started once. -/
theorem Launched.task (h : Launched hook given c) (hp : c.InPhase) (t : TaskTurn c m c') :
    Launched hook given c' := by
  have hs := hasStarted_iff.mp h.started
  have terms := t.sameTerms
  cases t with
  | refuses hph | enters hph => exact absurd (hp.notStarted (.inl hph)) hs
  | spawns hph | spawnFails _ hph => exact absurd (hp.notStarted (.inr hph)) hs
  | cancel | kills | awaits | waitFails => exact h.same rfl terms ⟨rfl, rfl⟩
  | idles => exact h
  | settles | reaps | childEnds =>
    exact h.same (by rw [h.started, hasStarted_iff]; exact nofun) terms ⟨rfl, rfl⟩

/-! ## Any moves -/

theorem Begun.step (h : Begun hook given c) (ho : Orderly c) (hs : c.step m = some c') :
    Begun hook given c' := by
  rcases ho.turn hs with t | ⟨hm, same⟩
  · cases h with
    | unseen h =>
      rcases h.task t with h | ⟨_, h⟩
      · exact .unseen h
      · exact .prepared h
    | prepared h => exact h.task t
    | launched h => exact .launched (h.task ho.inPhase t)
  · cases h with
    | unseen h => simp [h.untouched.aside hm] at hs
    | prepared h => simp [h.untouched.aside hm] at hs
    | launched h =>
      exact .launched (h.same same.hasStarted same.toSameTerms (sameStart_aside hs hm))

theorem unseen_ofRequest : Unseen r.hook given (ofRequest r given limit capacity) :=
  ⟨.inl rfl, ⟨rfl, rfl, ⟨rfl, rfl⟩, rfl⟩, rfl, rfl, rfl⟩

theorem begun_of_run (ran : (ofRequest r given limit capacity).run moves = some c) :
    Begun r.hook given c :=
  orderly_induct (P := fun _ c => Begun r.hook given c) (.unseen unseen_ofRequest)
    (fun _ ho h hs => h.step ho hs) ran

/-! ## The first look at the token -/

/-- What a call knows of its token makes no difference to how far it has come. -/
theorem Unseen.seeing (h : Unseen hook given c) (b : Bool) :
    Unseen hook given { c with cancelled := b } :=
  ⟨h.phase, h.untouched.same rfl rfl ⟨rfl, rfl⟩ rfl, h.pending, h.launch, h.shown⟩

theorem Prepared.seeing (h : Prepared hook given c) (b : Bool) :
    Prepared hook given { c with cancelled := b } :=
  ⟨h.phase, h.untouched.same rfl rfl ⟨rfl, rfl⟩ rfl, h.launch, h.shown⟩

/-- The look at the token decides whether the hook runs. -/
theorem Unseen.looks (h : Unseen hook given c) (hp : c.phase = .entering) :
    ∃ c', c.step .enter = some c' ∧
      if c.cancelled then Unseen hook given c' ∧ c'.outcome? = some (.error .cancelled)
      else Prepared hook given c' := by
  refine ⟨c.enter, by simp only [step, hp, if_true], ?_⟩
  have next := h.task (taskTurn_enter hp)
  cases hx : c.cancelled with
  | true =>
    rcases next with next | ⟨calm, _⟩
    · exact ⟨next, by simp only [enter, hx, if_true, refuse, outcome?]⟩
    · simp [hx] at calm
  | false =>
    have entered : c.enter.phase = .starting := by
      simp only [enter, hx, Bool.false_eq_true, if_false]
      split <;> rfl
    rcases next with next | ⟨_, next⟩
    · rcases next.phase with hph | hph <;> simp [entered] at hph
    · exact next

/-- As long as the main task has not looked, the call is as it was made. -/
theorem Begun.unseen_of_entering (h : Begun hook given c) (ho : Orderly c)
    (hp : c.phase = .entering) : Unseen hook given c := by
  cases h with
  | unseen h => exact h
  | prepared h => rcases h.phase with hph | ⟨_, hph⟩ <;> simp [hp] at hph
  | launched h => exact absurd (ho.inPhase.notStarted (.inl hp)) (hasStarted_iff.mp h.started)

/-- When the hook has run, the process is put together and can be started. -/
theorem Begun.prepared_of_starting (h : Begun hook given c) (ho : Orderly c)
    (hp : c.phase = .starting) : Prepared hook given c := by
  cases h with
  | unseen h => rcases h.phase with hph | hph <;> simp [hp] at hph
  | prepared h => exact h
  | launched h => exact absurd (ho.inPhase.notStarted (.inr hp)) (hasStarted_iff.mp h.started)

theorem Begun.untouched (h : Begun hook given c) (hn : c.hasStarted = false) : c.Untouched := by
  cases h with
  | unseen h => exact h.untouched
  | prepared h => exact h.untouched
  | launched h => simp [h.started] at hn

/-- A call that is cancelled before the main task has looked is not touched any more. -/
theorem Unseen.stays (h : Unseen hook given c) (hx : c.cancelled) (hs : c.step m = some c') :
    Unseen hook given c' := by
  cases hm : m.isMain with
  | true =>
    rcases h.task (taskTurn_of_step hs hm) with h | ⟨calm, _⟩
    · exact h
    · simp [hx] at calm
  | false => simp [h.untouched.aside hm] at hs

end Call

end GitSteward
