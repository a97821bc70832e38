-- What each move of a call can do to the input of its process: the feeder takes a turn, with what
-- that does to the pipe, or the process reads, or closes its end.
import GitSteward.Proofs.Call.Phases
import GitSteward.Proofs.Feeder

namespace GitSteward

/-- What happens to the feeder in a move. -/
def Move.fed? : Move → Option FeederEvent
  | .feeder event => some event
  | _ => none

namespace Call

variable {c c' start : Call} {m : Move} {moves before after : List Move} {f : Feeder}
variable {r : Request} {launch : Launch} {limit capacity : Nat}

/-! ## The moves of the input -/

/-- All that happens to the feeder in some moves. -/
def fed (moves : List Move) : List FeederEvent := moves.filterMap Move.fed?

/-- The bytes that a process reads from its input in a move. -/
def gets (c : Call) : Move → Bytes
  | .childReads count => ((c.input.read count).map (·.1)).getD []
  | _ => []

/-- The bytes that a process reads from its input in some moves, one after the other. -/
def getsIn (c : Call) : List Move → Bytes
  | [] => []
  | m :: rest => c.gets m ++ ((c.step m).map (·.getsIn rest)).getD []

theorem fed_append (before after : List Move) : fed (before ++ after) = fed before ++ fed after :=
  List.filterMap_append

theorem fed_aside (h : m.fed? = none) : fed (moves ++ [m]) = fed moves := by
  simp [fed, h]

theorem fed_feeder (event : FeederEvent) : fed (moves ++ [.feeder event]) = fed moves ++ [event] :=
  fed_append _ _

theorem getsIn_append (ran : start.run before = some c) (after : List Move) :
    start.getsIn (before ++ after) = start.getsIn before ++ c.getsIn after := by
  induction before generalizing start with
  | nil =>
    cases ran
    rfl
  | cons first rest ih =>
    obtain ⟨next, hstep, hrest⟩ := Option.bind_eq_some_iff.mp ran
    simp [getsIn, hstep, ih hrest]

theorem getsIn_snoc (ran : start.run moves = some c) (m : Move) :
    start.getsIn (moves ++ [m]) = start.getsIn moves ++ c.gets m := by
  rw [getsIn_append ran]
  cases h : c.step m <;> simp [getsIn, h]

/-- What an event of the feeder does to the pipe. -/
inductive Pours (c : Call) (f : Feeder) : FeederEvent → Pipe → Prop
  | write (n : Nat) (input : Pipe) : c.input.write (f.buffer.take n) = some input →
      Pours c f (.write n) input
  /-- writing fails when nobody is left to read -/
  | pipeFails (e : SystemError) : c.input.readerOpen = false → Pours c f (.pipeFails e) c.input
  | close : Pours c f .close c.input.closeWriter
  | stop : c.stopAsked → Pours c f .stop c.input.closeWriter
  | fill (bytes : Bytes) : Pours c f (.fill bytes) c.input
  | sourceEnds : Pours c f .sourceEnds c.input
  | sourceFails (e : SystemError) : Pours c f (.sourceFails e) c.input

/-- What a move does to the feeder and to its pipe. -/
inductive OnInput (c : Call) (m : Move) (c' : Call) : Prop
  | spawned : c.phase = .starting → m = .spawn → c' = c.spawn → OnInput c m c'
  | aside : m ≠ .spawn → m.fed? = none → c.gets m = [] → c'.feeder = c.feeder →
      (c'.input = c.input ∨ c'.input = c.input.closeReader) →
      c'.faultsOf .stdin = c.faultsOf .stdin → OnInput c m c'
  | read (count : Nat) (bytes : Bytes) (input : Pipe) : m = .childReads count →
      (c.hasStarted && c.hasStdin) = true → c.input.read count = some (bytes, input) →
      c' = { c with input } → OnInput c m c'
  | feeds (event : FeederEvent) (f f' : Feeder) (faults : List Fault) (input : Pipe) :
      m = .feeder event → c.feeder = some f → f.Turn event f' faults → Pours c f event input →
      c' = { c with feeder := some f', faults := c.faults ++ faults, input } → OnInput c m c'

theorem onInput_feeder {event : FeederEvent} (h : c.feed event = some c') :
    OnInput c (.feeder event) c' := by
  obtain ⟨next, hs, h⟩ := Option.bind_eq_some_iff.mp h
  obtain ⟨f, hf, hs⟩ := Option.bind_eq_some_iff.mp hs
  obtain ⟨⟨f', faults⟩, hstep, hs⟩ := Option.bind_eq_some_iff.mp hs
  cases hs
  have t := Feeder.turn_of_step hstep
  cases event with
  | write n =>
    obtain ⟨feeder, hfeeder, h⟩ := Option.bind_eq_some_iff.mp h
    obtain ⟨input, hinput, h⟩ := Option.bind_eq_some_iff.mp h
    cases h
    cases hf.symm.trans hfeeder
    exact .feeds _ f f' faults input rfl hf t (.write n input hinput) rfl
  | pipeFails e =>
    simp only at h
    split at h
    · cases h
    · rename_i hreader
      cases h
      exact .feeds _ f f' faults _ rfl hf t (.pipeFails e (Bool.eq_false_iff.mpr hreader)) rfl
  | stop =>
    simp only at h
    split at h <;> cases h
    exact .feeds _ f f' faults _ rfl hf t (.stop ‹_›) rfl
  | close =>
    cases h
    exact .feeds _ f f' faults _ rfl hf t .close rfl
  | fill bytes =>
    cases h
    exact .feeds _ f f' faults _ rfl hf t (.fill bytes) rfl
  | sourceEnds =>
    cases h
    exact .feeds _ f f' faults _ rfl hf t .sourceEnds rfl
  | sourceFails e =>
    cases h
    exact .feeds _ f f' faults _ rfl hf t (.sourceFails e) rfl

theorem onInput_along {s : StreamName} {lm : LineMove} (named : c.Named)
    (h : c.along s lm = some c') (hm : m ≠ .spawn) (hfed : m.fed? = none) (hgets : c.gets m = []) :
    OnInput c m c' := by
  obtain ⟨hs, l, l', faults, hl, hstep, rfl⟩ := along_cases h
  have hname : ∀ f ∈ faults, ∃ e, f = .streamCopy s e := by
    rw [← named s l hl]
    exact (Line.turn_of_step hstep).faults_name
  refine .aside hm hfed hgets ?_ (.inl ?_) ?_
  · cases s <;> rfl
  · cases s <;> rfl
  · rw [faultsOf_append rfl hname, if_neg (Ne.symm hs), List.append_nil]

theorem onInput_of_step (ho : Orderly c) (h : c.step m = some c') : OnInput c m c' := by
  have same (hm : m ≠ .spawn) (hfed : m.fed? = none) (hgets : c.gets m = []) : OnInput c m c :=
    .aside hm hfed hgets rfl (.inl rfl) rfl
  cases m with
  | spawn =>
    cases taskTurn_of_step h rfl with
    | spawns hp => exact .spawned hp rfl rfl
  | cancel | enter | spawnFails | poll | waitFails | reap | childEnds =>
    cases taskTurn_of_step h rfl <;> exact .aside (by simp) rfl rfl rfl (.inl rfl) rfl
  | childWrites s bytes =>
    simp only [step] at h
    split at h
    · cases h
    · split at h
      · exact onInput_along ho.named h (by simp) rfl rfl
      · cases h
        exact same (by simp) rfl rfl
  | childCloses s =>
    simp only [step] at h
    split at h
    · cases h
    · split at h
      · cases h
        exact .aside (by simp) rfl rfl rfl (.inr rfl) rfl
      · split at h
        · exact onInput_along ho.named h (by simp) rfl rfl
        · cases h
          exact same (by simp) rfl rfl
  | childReads count =>
    simp only [step] at h
    split at h
    · rename_i hopen
      obtain ⟨⟨bytes, input⟩, hread, h⟩ := Option.map_eq_some_iff.mp h
      cases h
      exact .read count bytes input rfl hopen hread rfl
    · cases h
  | childSeesEnd =>
    simp only [step] at h
    split at h <;> cases h
    exact same (by simp) rfl rfl
  | copierReads s count => exact onInput_along ho.named h (by simp) rfl rfl
  | copier s event =>
    simp only [step] at h
    split at h
    · cases h
    · exact onInput_along ho.named h (by simp) rfl rfl
  | feeder event => exact onInput_feeder h

/-- What a process was given when it was started stays, and a feeder that was asked to stop stays
so. -/
theorem keeps_of_step (ho : Orderly c) (h : c.step m = some c') (hm : m ≠ .spawn) :
    c'.hasStarted = c.hasStarted ∧ (c.stopAsked → c'.stopAsked) := by
  rcases ho.turn h with t | ⟨-, same⟩
  · exact ⟨t.hasStarted ho.inPhase hm, (t.asked ho).1⟩
  · exact ⟨same.hasStarted, fun hasked => by rw [same.stopAsked, hasked]⟩

end Call

end GitSteward
