-- What each move of a call can do. A move of the main task changes how far the call has come and
-- leaves every line as it is, but for the one that starts the process. Any other move leaves the
-- main task as it is, and touches one line at most.
import GitSteward.Call
import GitSteward.Proofs.Line

namespace GitSteward

/-- Whether a fault is one of copying a stream. -/
def Fault.concerns (s : StreamName) : Fault → Bool
  | .streamCopy t _ => t = s
  | _ => false

namespace Move

/-- Whether a move is made by the main task, by the owner of the token, or by the end of the
process. -/
def isMain : Move → Bool
  | .cancel | .enter | .spawn | .spawnFails _ | .poll | .waitFails _ | .reap | .childEnds _ => true
  | _ => false

/-- What a move does on the line of an output. -/
def lineMove? (s : StreamName) : Move → Option LineMove
  | .childWrites t bytes => if t = s then some (.writes bytes) else none
  | .childCloses t => if t = s then some .closes else none
  | .copierReads t count => if t = s then some (.reads count) else none
  | .copier t event => if t = s then some (.copier event) else none
  | _ => none

end Move

namespace Call

variable {c c' : Call} {m : Move} {moves : List Move} {s t : StreamName}

/-- The moves that are made on the line of an output, in order. -/
def lineMoves (s : StreamName) (moves : List Move) : List LineMove :=
  moves.filterMap (·.lineMove? s)

/-- The faults reported of one stream, in order. -/
def faultsOf (c : Call) (s : StreamName) : List Fault := c.faults.filter (·.concerns s)

/-- Every line has the name of the stream that it carries. -/
def Named (c : Call) : Prop := ∀ s l, c.line? s = some l → l.copier.stream = s

/-! ## Moves of the main task -/

/-- Everything that the main task, the owner of the token and the end of the process may do in
one move. -/
inductive TaskTurn (c : Call) : Move → Call → Prop
  | cancel : TaskTurn c .cancel { c with cancelled := true }
  | refuses : c.phase = .entering → c.cancelled →
      TaskTurn c .enter (c.refuse (.error .cancelled))
  | enters : c.phase = .entering → c.cancelled = false →
      TaskTurn c .enter { c with
        phase := .starting
        launch := (c.hook.map fun hook => hook c.launch).getD c.launch
        shown := c.shown ++ (c.hook.map fun _ => c.launch).toList }
  | spawns : c.phase = .starting → TaskTurn c .spawn c.spawn
  | spawnFails (e : SystemError) : c.phase = .starting →
      TaskTurn c (.spawnFails e) (c.refuse (.error (Fault.ofStart e)))
  | idles : c.phase = .draining → c.cancelled = false → c.copiersDone = false →
      TaskTurn c .poll c
  | kills : c.phase = .draining ∨ c.phase = .waiting → c.cancelled →
      TaskTurn c .poll { c with phase := .killing }
  | awaits : c.phase = .draining ∨ c.phase = .waiting → c.awaitsExit →
      (∀ status, c.child ≠ .ended status) → TaskTurn c .poll { c with phase := .waiting }
  | settles (status : WaitStatus) : c.phase = .draining ∨ c.phase = .waiting → c.awaitsExit →
      c.child = .ended status →
      TaskTurn c .poll
        (({ c with child := .reaped status } : Call).finish (Outcome.ofExit status c.captured))
  | waitFails (e : SystemError) : c.phase = .draining ∨ c.phase = .waiting → c.awaitsExit →
      TaskTurn c (.waitFails e) (c.finish (.error (Fault.ofWait e)))
  | reaps (status : WaitStatus) : c.phase = .killing → c.child = .ended status →
      TaskTurn c .reap (({ c with child := .reaped status } : Call).finish (.error .cancelled))
  | childEnds (status : WaitStatus) : c.child = .running →
      TaskTurn c (.childEnds status) { c with child := .ended status }

theorem phase_of_awaitsExit (h : c.awaitsExit) : c.phase = .draining ∨ c.phase = .waiting := by
  unfold awaitsExit at h
  cases hp : c.phase <;> simp_all

theorem taskTurn_enter (hp : c.phase = .entering) : TaskTurn c .enter c.enter := by
  unfold enter
  by_cases hc : c.cancelled
  · rw [if_pos hc]
    exact .refuses hp hc
  · rw [if_neg hc]
    have ht := TaskTurn.enters hp (by simpa using hc)
    cases hh : c.hook <;> simpa [hh] using ht

theorem taskTurn_settle (hp : c.phase = .draining ∨ c.phase = .waiting) (ha : c.awaitsExit) :
    TaskTurn c .poll c.settle := by
  unfold settle
  split
  · exact .settles _ hp ha ‹_›
  · rename_i hne
    exact .awaits hp ha hne

theorem taskTurn_poll (h : c.poll = some c') : TaskTurn c .poll c' := by
  have hp : c.phase = .draining ∨ c.phase = .waiting := by
    unfold poll at h
    cases hp : c.phase <;> simp_all
  have h : some (if c.cancelled then { c with phase := .killing }
      else if c.awaitsExit then c.settle else c) = some c' := by
    unfold poll at h
    rcases hp with hp | hp <;> simpa [hp] using h
  split at h
  · cases h
    exact .kills hp ‹_›
  · rename_i hc
    split at h
    · cases h
      exact taskTurn_settle hp ‹_›
    · rename_i ha
      cases h
      rcases hp with hp | hp
      · exact .idles hp (by simpa using hc) (by simpa [awaitsExit, hp, hc] using ha)
      · simp [awaitsExit, hp, hc] at ha

theorem taskTurn_of_step (h : c.step m = some c') (hm : m.isMain) : TaskTurn c m c' := by
  cases m with
  | cancel =>
    cases h
    exact .cancel
  | enter =>
    simp only [step] at h
    split at h
    · cases h
      exact taskTurn_enter (by cases hp : c.phase <;> simp_all)
    · cases h
  | spawn =>
    simp only [step] at h
    split at h
    · cases h
      exact .spawns (by cases hp : c.phase <;> simp_all)
    · cases h
  | spawnFails e =>
    simp only [step] at h
    split at h
    · cases h
      exact .spawnFails e (by cases hp : c.phase <;> simp_all)
    · cases h
  | poll => exact taskTurn_poll h
  | waitFails e =>
    simp only [step] at h
    split at h
    · rename_i ha
      cases h
      exact .waitFails e (phase_of_awaitsExit ha) ha
    · cases h
  | reap =>
    simp only [step] at h
    split at h
    · cases h
      exact .reaps _ ‹_› ‹_›
    · cases h
  | childEnds status =>
    simp only [step] at h
    split at h
    · cases h
      exact .childEnds status ‹_›
    · cases h
  | childWrites | childCloses | childReads | childSeesEnd | copierReads | copier | feeder =>
    simp [Move.isMain] at hm

/-- A move of the main task that starts no process leaves every line as it is, and reports
nothing. -/
theorem TaskTurn.lines (t : TaskTurn c m c') (hm : m ≠ .spawn) :
    (∀ s, c'.line? s = c.line? s) ∧ c'.faults = c.faults := by
  have same : c'.copierOf = c.copierOf ∧ c'.pipeOf = c.pipeOf ∧ c'.faults = c.faults := by
    cases t with
    | spawns => exact absurd rfl hm
    | idles => exact ⟨rfl, rfl, rfl⟩
    | _ => exact ⟨funext fun s => by cases s <;> rfl, funext fun s => by cases s <;> rfl, rfl⟩
  obtain ⟨hc, hp, hf⟩ := same
  exact ⟨fun s => by rw [line?, line?, hc, hp], hf⟩

/-- Nothing that the caller settled changes in the course of a call. -/
structure SameTerms (c c' : Call) : Prop where
  supplies : c'.supplies = c.supplies
  keeps : c'.keeps = c.keeps
  capacity : c'.capacity = c.capacity

theorem SameTerms.refl (c : Call) : SameTerms c c := ⟨rfl, rfl, rfl⟩

theorem TaskTurn.sameTerms (t : TaskTurn c m c') : SameTerms c c' := by
  cases t with
  | idles => exact .refl c
  | _ => exact ⟨funext fun s => by cases s <;> rfl, funext fun s => by cases s <;> rfl, rfl⟩

/-! ## The other moves -/

/-- The main task is where it was. -/
structure SameTask (c c' : Call) : Prop extends SameTerms c c' where
  phase : c'.phase = c.phase
  child : c'.child = c.child
  cancelled : c'.cancelled = c.cancelled
  stopAsked : c'.stopAsked = c.stopAsked

theorem SameTask.refl (c : Call) : SameTask c c := ⟨.refl c, rfl, rfl, rfl, rfl⟩

theorem sameTask_setLine (c : Call) (l : Line) (faults : List Fault) (t : StreamName) :
    SameTask c { c.setLine l t with faults } := by
  cases t <;> exact ⟨⟨funext fun s => by cases s <;> rfl, funext fun s => by cases s <;> rfl, rfl⟩,
    rfl, rfl, rfl, rfl⟩

theorem line?_setLine_self (c : Call) (l : Line) (faults : List Fault) (h : t ≠ .stdin) :
    ({ c.setLine l t with faults } : Call).line? t = some l := by
  cases t with
  | stdin => exact absurd rfl h
  | stdout | stderr => rfl

theorem line?_setLine_other (c : Call) (l : Line) (faults : List Fault) (h : s ≠ t) :
    ({ c.setLine l t with faults } : Call).line? s = c.line? s := by
  cases s <;> cases t <;> first | rfl | exact absurd rfl h

/-- What a move does to the line of an output: nothing, or what the move is on that line. -/
inductive OnLine (c : Call) (m : Move) (c' : Call) (s : StreamName) : Prop
  | untouched : m.lineMove? s = none ∨ c.line? s = none → c'.line? s = c.line? s →
      c'.faultsOf s = c.faultsOf s → OnLine c m c' s
  | moved (l : Line) (lm : LineMove) (l' : Line) (faults : List Fault) :
      c.line? s = some l → m.lineMove? s = some lm → l.step lm = some (l', faults) →
      c'.line? s = some l' → c'.faultsOf s = c.faultsOf s ++ faults → OnLine c m c' s

theorem filter_concerns {faults : List Fault} (h : ∀ f ∈ faults, ∃ e, f = .streamCopy t e) :
    faults.filter (·.concerns s) = if s = t then faults else [] := by
  split
  · rename_i hst
    rw [List.filter_eq_self]
    intro f hf
    obtain ⟨e, rfl⟩ := h f hf
    simp [Fault.concerns, hst]
  · rename_i hst
    rw [List.filter_eq_nil_iff]
    intro f hf
    obtain ⟨e, rfl⟩ := h f hf
    simpa [Fault.concerns] using Ne.symm hst

theorem faultsOf_append {faults : List Fault} (hf : c'.faults = c.faults ++ faults)
    (h : ∀ f ∈ faults, ∃ e, f = .streamCopy t e) :
    c'.faultsOf s = c.faultsOf s ++ if s = t then faults else [] := by
  rw [faultsOf, faultsOf, hf, List.filter_append, filter_concerns h]

/-- A move along one line. -/
theorem along_cases {lm : LineMove} (h : c.along t lm = some c') :
    t ≠ .stdin ∧ ∃ l l' faults, c.line? t = some l ∧ l.step lm = some (l', faults) ∧
      c' = { c.setLine l' t with faults := c.faults ++ faults } := by
  obtain ⟨l, hl, h⟩ := Option.bind_eq_some_iff.mp h
  obtain ⟨⟨l', faults⟩, hstep, h⟩ := Option.bind_eq_some_iff.mp h
  cases h
  refine ⟨?_, l, l', faults, hl, hstep, rfl⟩
  rintro rfl
  cases hl

theorem onLine_along {lm : LineMove} (named : c.Named) (h : c.along t lm = some c')
    (hm : m.lineMove? s = if t = s then some lm else none) : OnLine c m c' s := by
  obtain ⟨ht, l, l', faults, hl, hstep, rfl⟩ := along_cases h
  have hname : ∀ f ∈ faults, ∃ e, f = .streamCopy t e := by
    rw [← named t l hl]
    exact (Line.turn_of_step hstep).faults_name
  by_cases hts : t = s
  · subst hts
    rw [if_pos rfl] at hm
    refine .moved l lm l' faults hl hm hstep (line?_setLine_self c l' _ ht) ?_
    rw [faultsOf_append rfl hname, if_pos rfl]
  · rw [if_neg hts] at hm
    refine .untouched (.inl hm) (line?_setLine_other c l' _ (Ne.symm hts)) ?_
    rw [faultsOf_append rfl hname, if_neg (Ne.symm hts), List.append_nil]

/-- The faults of a feeder are those of the input. -/
theorem feeder_faults {f f' : Feeder} {event : FeederEvent} {faults : List Fault}
    (h : f.step event = some (f', faults)) : ∀ x ∈ faults, ∃ e, x = .streamCopy .stdin e := by
  unfold Feeder.step at h
  split at h
  all_goals try split at h
  all_goals cases h
  all_goals simp

/-- A move of the feeder touches the feeder and its pipe. -/
theorem feed_cases {event : FeederEvent} (h : c.feed event = some c') :
    ∃ feeder faults input, (∀ f ∈ faults, ∃ e, f = .streamCopy .stdin e) ∧
      c' = { c with feeder, faults := c.faults ++ faults, input } := by
  obtain ⟨after, hs, h⟩ := Option.bind_eq_some_iff.mp h
  obtain ⟨f, hf, hs⟩ := Option.bind_eq_some_iff.mp hs
  obtain ⟨⟨f', faults⟩, hstep, hs⟩ := Option.bind_eq_some_iff.mp hs
  cases hs
  have hname := feeder_faults hstep
  cases event with
  | write count =>
    obtain ⟨feeder, _, h⟩ := Option.bind_eq_some_iff.mp h
    obtain ⟨input, _, h⟩ := Option.bind_eq_some_iff.mp h
    cases h
    exact ⟨_, faults, _, hname, rfl⟩
  | pipeFails | stop =>
    simp only at h
    split at h <;> cases h
    exact ⟨_, faults, _, hname, rfl⟩
  | close | fill | sourceEnds | sourceFails =>
    cases h
    exact ⟨_, faults, _, hname, rfl⟩

theorem sameTask_input (c : Call) (feeder : Option Feeder) (faults : List Fault) (input : Pipe) :
    SameTask c { c with feeder, faults, input } :=
  ⟨⟨funext fun s => by cases s <;> rfl, funext fun s => by cases s <;> rfl, rfl⟩,
    rfl, rfl, rfl, rfl⟩

theorem line?_input (c : Call) (feeder : Option Feeder) (faults : List Fault) (input : Pipe) :
    ({ c with feeder, faults, input } : Call).line? s = c.line? s := by
  cases s <;> rfl

theorem onLine_input (hm : m.lineMove? s = none) (hs : s ≠ .stdin) {feeder : Option Feeder}
    {faults : List Fault} {input : Pipe} (h : ∀ f ∈ faults, ∃ e, f = .streamCopy .stdin e) :
    OnLine c m { c with feeder, faults := c.faults ++ faults, input } s := by
  refine .untouched (.inl hm) (line?_input c _ _ _) ?_
  rw [faultsOf_append rfl h, if_neg hs, List.append_nil]

theorem sameTask_along {lm : LineMove} (h : c.along t lm = some c') : SameTask c c' := by
  obtain ⟨_, l, l', faults, _, _, rfl⟩ := along_cases h
  exact sameTask_setLine c l' _ t

/-- What processes write to an output that nobody wants goes nowhere. -/
theorem onLine_unsupplied {lm : LineMove} (ht : c.line? t = none)
    (hm : m.lineMove? s = if t = s then some lm else none) : OnLine c m c s := by
  refine .untouched ?_ rfl rfl
  by_cases hts : t = s
  · subst hts
    exact .inr ht
  · rw [hm, if_neg hts]
    exact .inl rfl

/-- A move that is not one of the main task leaves that as it is. What it does to an output is
one move on its line, or nothing. -/
theorem aside_of_step (named : c.Named) (lines : ∀ t, c.supplies t = false → c.line? t = none)
    (h : c.step m = some c') (hm : m.isMain = false) :
    SameTask c c' ∧ ∀ s, s ≠ .stdin → OnLine c m c' s := by
  cases m with
  | childWrites t bytes =>
    simp only [step] at h
    split at h
    · cases h
    · split at h
      · exact ⟨sameTask_along h, fun s _ => onLine_along named h rfl⟩
      · rename_i hs
        cases h
        exact ⟨.refl c, fun s _ => onLine_unsupplied (lines t (by simpa using hs)) rfl⟩
  | childCloses t =>
    simp only [step] at h
    split at h
    · cases h
    · split at h
      · rename_i ht
        cases h
        refine ⟨sameTask_input c c.feeder c.faults c.input.closeReader, fun s hs => ?_⟩
        refine .untouched (.inl ?_) (line?_input c c.feeder c.faults _) rfl
        simp [Move.lineMove?, ht, Ne.symm hs]
      · split at h
        · exact ⟨sameTask_along h, fun s _ => onLine_along named h rfl⟩
        · rename_i hs
          cases h
          exact ⟨.refl c, fun s _ => onLine_unsupplied (lines t (by simpa using hs)) rfl⟩
  | childReads count =>
    simp only [step] at h
    split at h
    · obtain ⟨⟨bytes, input⟩, _, h⟩ := Option.map_eq_some_iff.mp h
      cases h
      exact ⟨sameTask_input c c.feeder c.faults input,
        fun s _ => .untouched (.inl rfl) (line?_input c c.feeder c.faults _) rfl⟩
    · cases h
  | childSeesEnd =>
    simp only [step] at h
    split at h
    · cases h
      exact ⟨.refl c, fun s _ => .untouched (.inl rfl) rfl rfl⟩
    · cases h
  | copierReads t count => exact ⟨sameTask_along h, fun s _ => onLine_along named h rfl⟩
  | copier t event =>
    simp only [step] at h
    split at h
    · cases h
    · exact ⟨sameTask_along h, fun s _ => onLine_along named h rfl⟩
  | feeder event =>
    obtain ⟨feeder, faults, input, hname, rfl⟩ := feed_cases h
    exact ⟨sameTask_input c feeder _ input, fun s hs => onLine_input rfl hs hname⟩
  | cancel | enter | spawn | spawnFails | poll | waitFails | reap | childEnds =>
    simp [Move.isMain] at hm

/-- No fault that was reported is taken back. -/
theorem faults_of_step (h : c.step m = some c') : ∃ more, c'.faults = c.faults ++ more := by
  have same (hf : c'.faults = c.faults) : ∃ more, c'.faults = c.faults ++ more :=
    ⟨[], by rw [hf, List.append_nil]⟩
  have along {t : StreamName} {lm : LineMove} (h : c.along t lm = some c') :
      ∃ more, c'.faults = c.faults ++ more := by
    obtain ⟨_, _, _, faults, _, _, rfl⟩ := along_cases h
    exact ⟨faults, rfl⟩
  cases m with
  | cancel | enter | spawn | spawnFails | poll | waitFails | reap | childEnds =>
    cases taskTurn_of_step h rfl <;> exact same rfl
  | childWrites t bytes =>
    simp only [step] at h
    split at h
    · cases h
    · split at h
      · exact along h
      · cases h
        exact same rfl
  | childCloses t =>
    simp only [step] at h
    split at h
    · cases h
    · split at h
      · cases h
        exact same rfl
      · split at h
        · exact along h
        · cases h
          exact same rfl
  | childReads count =>
    simp only [step] at h
    split at h
    · obtain ⟨_, _, rfl⟩ := Option.map_eq_some_iff.mp h
      exact same rfl
    · cases h
  | childSeesEnd =>
    simp only [step] at h
    split at h <;> cases h
    exact same rfl
  | copierReads t count => exact along h
  | copier t event =>
    simp only [step] at h
    split at h
    · cases h
    · exact along h
  | feeder event =>
    obtain ⟨_, faults, _, _, rfl⟩ := feed_cases h
    exact ⟨faults, rfl⟩

/-- A copier is told to stop only when the call has asked for it. -/
theorem asked_of_stop (h : c.step m = some c') (hm : m.lineMove? s = some (.copier .stop)) :
    c.stopAsked := by
  cases m with
  | copier t event =>
    simp only [Move.lineMove?] at hm
    split at hm
    · cases hm
      simp only [step] at h
      split at h
      · cases h
      · simp_all
    · cases hm
  | childWrites | childCloses | copierReads =>
    simp only [Move.lineMove?] at hm
    split at hm <;> cases hm
  | _ => cases hm

end Call

end GitSteward
