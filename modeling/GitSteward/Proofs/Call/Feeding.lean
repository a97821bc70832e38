-- The input of a process. What the source has given is in the buffer of the feeder, in the pipe, or
-- has been read, in this order, and the pipe is closed only when nothing more is to come. So a
-- process that reads to the end has read everything, unless the source has failed.
import GitSteward.Proofs.Call.Cancelling
import GitSteward.Proofs.Call.Input

namespace GitSteward.Call

variable {c c' start : Call} {m : Move} {moves before after : List Move} {f : Feeder}
variable {r : Request} {launch : Launch} {limit capacity : Nat}

/-! ## Where the bytes are -/

/-- The books of an input with a feeder. -/
structure Feeds (start : Call) (moves : List Move) (c : Call) (f : Feeder) : Prop where
  stands : f.Stands (fed moves)
  /-- what the source has given has been read, or is in the pipe, or waits in the buffer -/
  account : start.getsIn moves ++ c.input.held.bytes ++ f.buffer = filledIn (fed moves)
  /-- the pipe is closed just when the feeder is over -/
  writer : c.input.writerOpen = !f.isOver
  /-- only a feeder that was asked to stops -/
  asked : f.phase = .stopped → c.stopAsked
  /-- writing fails only when nobody is left to read -/
  reader : ∀ e, .pipeFails e ∈ fed moves → c.input.readerOpen = false
  capacity : c.input.capacity = c.capacity
  told : c.faultsOf .stdin = (errorsIn (fed moves)).map (.streamCopy .stdin)

/-- The books of the input of a call. -/
inductive InputBooks (start : Call) (moves : List Move) (c : Call) : Prop
  /-- there is no process yet, or it has no input -/
  | unfed : c.feeder = none → (c.hasStarted && c.hasStdin) = false → fed moves = [] →
      start.getsIn moves = [] → c.faultsOf .stdin = [] → InputBooks start moves c
  | feeds (f : Feeder) : c.feeder = some f → (c.hasStarted && c.hasStdin) = true →
      Feeds start moves c f → InputBooks start moves c

theorem Feeds.aside (h : Feeds start moves c f) (ran : start.run moves = some c)
    (hfed : m.fed? = none) (hgets : c.gets m = [])
    (hinput : c'.input = c.input ∨ c'.input = c.input.closeReader)
    (hfaults : c'.faultsOf .stdin = c.faultsOf .stdin) (hcapacity : c'.capacity = c.capacity)
    (hasked : c.stopAsked → c'.stopAsked) : Feeds start (moves ++ [m]) c' f := by
  have hheld : c'.input.held = c.input.held := by rcases hinput with h | h <;> rw [h]; rfl
  have hwriter : c'.input.writerOpen = c.input.writerOpen := by
    rcases hinput with h | h <;> rw [h]; rfl
  have hroom : c'.input.capacity = c.input.capacity := by rcases hinput with h | h <;> rw [h]; rfl
  refine ⟨?_, ?_, ?_, fun hp => hasked (h.asked hp), ?_, ?_, ?_⟩
  · rw [fed_aside hfed]
    exact h.stands
  · rw [fed_aside hfed, getsIn_snoc ran, hgets, List.append_nil, hheld]
    exact h.account
  · rw [hwriter]
    exact h.writer
  · intro e he
    rw [fed_aside hfed] at he
    rcases hinput with hinput | hinput
    · rw [hinput]
      exact h.reader e he
    · rw [hinput]
      rfl
  · rw [hroom, h.capacity, hcapacity]
  · rw [fed_aside hfed, hfaults]
    exact h.told

theorem Feeds.read {count : Nat} {bytes : Bytes} {input : Pipe} (h : Feeds start moves c f)
    (ran : start.run moves = some c) (hread : c.input.read count = some (bytes, input)) :
    Feeds start (moves ++ [.childReads count]) { c with input } f := by
  have hgets : c.gets (.childReads count) = bytes := by rw [gets, hread]; rfl
  obtain ⟨-, -, -, rfl, rfl⟩ := Pipe.read_some hread
  refine ⟨?_, ?_, h.writer, h.asked, ?_, h.capacity, ?_⟩
  · rw [fed_aside rfl]
    exact h.stands
  · rw [fed_aside rfl, getsIn_snoc ran, hgets, Queue.bytes_split, ← h.account,
      List.append_assoc (start.getsIn moves), List.take_append_drop]
  · rw [fed_aside rfl]
    exact h.reader
  · rw [fed_aside rfl]
    exact h.told

theorem Pours.held {event : FeederEvent} {input : Pipe} (h : Pours c f event input) :
    input.held.bytes = c.input.held.bytes ++ event.put f.buffer := by
  cases h with
  | write n input hwrite =>
    obtain ⟨-, -, -, rfl⟩ := Pipe.write_some hwrite
    exact Queue.bytes_append _ _
  | pipeFails | close | stop | fill | sourceEnds | sourceFails => exact (List.append_nil _).symm

/-- Nothing but the end of the writer is changed, and that only by closing or stopping. -/
theorem Pours.ends {event : FeederEvent} {input : Pipe} (h : Pours c f event input) :
    input.readerOpen = c.input.readerOpen ∧ input.capacity = c.input.capacity ∧
      ((event = .close ∨ event = .stop) ∧ input.writerOpen = false ∨
        ¬(event = .close ∨ event = .stop) ∧ input.writerOpen = c.input.writerOpen) := by
  cases h with
  | write n input hwrite =>
    obtain ⟨-, -, -, rfl⟩ := Pipe.write_some hwrite
    exact ⟨rfl, rfl, .inr ⟨by simp, rfl⟩⟩
  | close => exact ⟨rfl, rfl, .inl ⟨.inl rfl, rfl⟩⟩
  | stop => exact ⟨rfl, rfl, .inl ⟨.inr rfl, rfl⟩⟩
  | pipeFails | fill | sourceEnds | sourceFails => exact ⟨rfl, rfl, .inr ⟨by simp, rfl⟩⟩

theorem Feeds.pours {event : FeederEvent} {f' : Feeder} {faults : List Fault} {input : Pipe}
    (h : Feeds start moves c f) (ran : start.run moves = some c) (t : f.Turn event f' faults)
    (hpours : Pours c f event input) :
    Feeds start (moves ++ [.feeder event])
      { c with feeder := some f', faults := c.faults ++ faults, input } f' := by
  obtain ⟨hreader, hcapacity, hwriter⟩ := hpours.ends
  refine ⟨?_, ?_, ?_, fun hp => ?_, fun e he => ?_, hcapacity.trans h.capacity, ?_⟩
  · rw [fed_feeder]
    exact t.stands h.stands
  · have hfilled : filledIn (fed moves ++ [event]) =
        filledIn (fed moves) ++ event.filled := by
      simp [filledIn]
    rw [fed_feeder, getsIn_snoc ran, hfilled, ← h.account, hpours.held]
    simp only [gets, List.append_nil, List.append_assoc, t.buffer_eq]
  · rcases hwriter with ⟨hevent, hclosed⟩ | ⟨hevent, hopen⟩
    · rw [hclosed, t.over_iff.mpr hevent]
      rfl
    · have hgoes : f'.isOver = false := Bool.eq_false_iff.mpr (mt t.over_iff.mp hevent)
      rw [hopen, h.writer, t.not_over, hgoes]
  · cases t.told_to_stop hp with
    | refl =>
      cases hpours with
      | stop hasked => exact hasked
  · rw [fed_feeder, List.mem_append, List.mem_singleton] at he
    rw [hreader]
    rcases he with he | rfl
    · exact h.reader e he
    · cases hpours with
      | pipeFails _ hclosed => exact hclosed
  · have hname : ∀ x ∈ faults, ∃ e, x = .streamCopy .stdin e := by
      rw [t.faults_eq]
      simp
    rw [fed_feeder, Feeder.errorsIn_snoc, List.map_append, ← h.told, ← t.faults_eq,
      faultsOf_append rfl hname, if_pos rfl]

/-- A process that is started finds an empty pipe, if it has an input. -/
theorem InputBooks.spawn (books : InputBooks start moves c) (ran : start.run moves = some c)
    (hnot : c.hasStarted = false) : InputBooks start (moves ++ [.spawn]) c.spawn := by
  cases books with
  | feeds f hf hs => simp [hnot] at hs
  | unfed _ _ hfed hgets hfaults =>
    have hfed' : fed (moves ++ [.spawn]) = [] := by rw [fed_aside rfl, hfed]
    have hgets' : start.getsIn (moves ++ [.spawn]) = [] := by
      rw [getsIn_snoc ran, hgets]
      rfl
    cases hsup : c.hasStdin with
    | false => refine .unfed ?_ ?_ hfed' hgets' hfaults <;> simp [Call.spawn, hsup]
    | true =>
      refine .feeds {} ?_ ?_ ⟨?_, ?_, rfl, fun hp => ?_, fun e he => ?_, rfl, ?_⟩
      · simp [Call.spawn, hsup]
      · simp [Call.spawn, hsup, hasStarted]
      · rw [hfed']
        exact Feeder.stands_fresh
      · rw [hfed', hgets']
        rfl
      · cases hp
      · rw [hfed'] at he
        cases he
      · rw [hfed']
        exact hfaults

theorem InputBooks.aside (books : InputBooks start moves c) (ran : start.run moves = some c)
    (ho : Orderly c) (hstep : c.step m = some c') (hm : m ≠ .spawn) (hfed : m.fed? = none)
    (hgets : c.gets m = []) (hfeeder : c'.feeder = c.feeder)
    (hinput : c'.input = c.input ∨ c'.input = c.input.closeReader)
    (hfaults : c'.faultsOf .stdin = c.faultsOf .stdin) : InputBooks start (moves ++ [m]) c' := by
  obtain ⟨hstarted, hasked⟩ := keeps_of_step ho hstep hm
  have terms := (ho.step hstep).2
  have hstdin : c'.hasStdin = c.hasStdin := congrFun terms.supplies .stdin
  cases books with
  | unfed hf hn hnone hgot htold =>
    refine .unfed (hfeeder.trans hf) ?_ ?_ ?_ (hfaults.trans htold)
    · rw [hstarted, hstdin]
      exact hn
    · rw [fed_aside hfed, hnone]
    · rw [getsIn_snoc ran, hgot, hgets]
      rfl
  | feeds f hf hs h =>
    refine .feeds f (hfeeder.trans hf) ?_ ?_
    · rw [hstarted, hstdin]
      exact hs
    · exact h.aside ran hfed hgets hinput hfaults terms.capacity hasked

theorem inputBooks_of_run (ran : (ofRequest r launch limit capacity).run moves = some c) :
    InputBooks (ofRequest r launch limit capacity) moves c := by
  refine orderly_induct (.unfed rfl rfl rfl rfl rfl) ?_ ran
  intro moves c m c' ran ho books hstep
  cases onInput_of_step ho hstep with
  | spawned hp hm hc' =>
    subst hm hc'
    exact books.spawn ran (by simp [hasStarted, ho.inPhase.notStarted (.inr hp)])
  | aside hm hfed hgets hfeeder hinput hfaults =>
    exact books.aside ran ho hstep hm hfed hgets hfeeder hinput hfaults
  | read count bytes input hm hs hread hc' =>
    subst hm hc'
    cases books with
    | unfed _ hn =>
      rw [hn] at hs
      cases hs
    | feeds f hf hs h => exact .feeds f hf hs (h.read ran hread)
  | feeds event f f' faults input hm hf t hpours hc' =>
    subst hm hc'
    cases books with
    | unfed hnone => cases hnone.symm.trans hf
    | feeds f₁ hf₁ hs h =>
      cases hf.symm.trans hf₁
      exact .feeds f' rfl hs (h.pours ran t hpours)

/-! ## After the end -/

/-- When a feeder is over nothing more happens to it. -/
theorem rests_of_over (ho : Orderly c) (hf : c.feeder = some f) (hover : f.isOver)
    (hs : c.hasStarted) (ran : c.run moves = some c') :
    c'.feeder = some f ∧ fed moves = [] ∧ c'.faultsOf .stdin = c.faultsOf .stdin := by
  induction moves generalizing c with
  | nil =>
    cases ran
    exact ⟨hf, rfl, rfl⟩
  | cons m rest ih =>
    obtain ⟨next, hstep, hrest⟩ := Option.bind_eq_some_iff.mp ran
    have ho' := (ho.step hstep).1
    cases onInput_of_step ho hstep with
    | spawned hp =>
      rw [hasStarted_iff] at hs
      exact absurd (ho.inPhase.notStarted (.inr hp)) hs
    | aside hm hfed _ hfeeder _ hfaults =>
      have hs' : next.hasStarted := by rw [(keeps_of_step ho hstep hm).1, hs]
      obtain ⟨hlast, hnone, hsame⟩ := ih ho' (hfeeder.trans hf) hs' hrest
      exact ⟨hlast, by simpa [fed, hfed] using hnone, hsame.trans hfaults⟩
    | read count bytes input hm _ _ hnext =>
      subst hm hnext
      have later := ih ho'
      exact later hf hs hrest
    | feeds event f₁ f' faults input hm hf₁ t =>
      cases hf.symm.trans hf₁
      rw [t.not_over] at hover
      cases hover

/-! ## The law -/

/-- A process sees the end of its input, which it has not closed, in a call that has not
returned. -/
structure SeesEnd (c : Call) : Prop where
  supplied : c.hasStdin
  reads : c.input.readerOpen
  ends : (c.step .childSeesEnd).isSome
  unreturned : c.outcome? = none

/-- What came of an input that was read to its end. -/
structure ReadToEnd (start : Call) (moves : List Move) (c : Call) : Prop where
  /-- the feeder has closed the pipe, and was not stopped -/
  closed : ∃ f, c.feeder = some f ∧ f.phase = .done
  /-- of a source that has ended everything was read, and nothing has failed -/
  whole : .sourceEnds ∈ fed moves →
    start.getsIn moves = filledIn (fed moves) ∧ c.faultsOf .stdin = []
  /-- a source that has failed is reported -/
  broken : ∀ e, .sourceFails e ∈ fed moves → c.faultsOf .stdin = [.streamCopy .stdin e]
  /-- there is no other way -/
  either : .sourceEnds ∈ fed moves ∨ ∃ e, .sourceFails e ∈ fed moves

/-- How a call feeds its process. -/
structure FeedsProcess (start : Call) (moves : List Move) (c : Call) : Prop where
  /-- what has been read is the first part of what the source has given -/
  first : start.getsIn moves <+: filledIn (fed moves)
  /-- the end is not seen before the feeder has closed the pipe -/
  closed : c.hasStdin → (c.step .childSeesEnd).isSome → ∃ f, c.feeder = some f ∧ f.isOver
  /-- what a process that has seen the end has read, and what is ever reported of the input then -/
  ended : ∀ before after b, moves = before ++ after → start.run before = some b → b.SeesEnd →
    ReadToEnd start moves c
  /-- a call has not returned while its process runs, as long as processes can be waited for -/
  lasts : c.child = .running → (∀ e, .waitFails e ∉ moves) → c.outcome? = none
  /-- the error of the source is reported, and it is the only one -/
  failed : ∀ e, .sourceFails e ∈ fed moves → c.faultsOf .stdin = [.streamCopy .stdin e]
  few : (c.faultsOf .stdin).length ≤ 1
  /-- a process that waits for its input waits for the source, or the feeder can go on -/
  goesOn : 0 < c.capacity → c.hasStarted → c.hasStdin → c.input.readerOpen →
    c.input.held.isEmpty → (c.step .childSeesEnd).isSome = false →
      (∃ event c', c.step (.feeder event) = some c' ∧ (event = .close ∨ ∃ n, event = .write n)) ∨
        ∃ f, c.feeder = some f ∧ f.phase = .copying ∧ f.buffer = [] ∧ f.sourceEnded = false

theorem seesEnd_iff : (c.step .childSeesEnd).isSome ↔
    c.hasStarted ∧ (c.hasStdin → c.input.held.bytes = [] ∧ c.input.writerOpen = false) := by
  have hempty : c.input.held.isEmpty ↔ c.input.held.bytes = [] := Queue.isEmpty_iff
  cases hs : c.hasStdin <;> simp [step, Pipe.atEnd, hs, hempty]

/-- What the source has given begins with what has been read. -/
theorem InputBooks.first (books : InputBooks start moves c) :
    start.getsIn moves <+: filledIn (fed moves) := by
  cases books with
  | unfed _ _ _ hgets =>
    rw [hgets]
    exact List.nil_prefix
  | feeds f _ _ h =>
    rw [← h.account, List.append_assoc]
    exact List.prefix_append _ _

theorem InputBooks.feeder (books : InputBooks start moves c) (hs : c.hasStarted)
    (hstdin : c.hasStdin) : ∃ f, c.feeder = some f ∧ Feeds start moves c f := by
  cases books with
  | unfed _ hn => simp [hs, hstdin] at hn
  | feeds f hf _ h => exact ⟨f, hf, h⟩

theorem Feeds.failed (h : Feeds start moves c f) {e : SystemError}
    (hfails : .sourceFails e ∈ fed moves) : c.faultsOf .stdin = [.streamCopy .stdin e] := by
  have hmem : e ∈ errorsIn (fed moves) := List.mem_filterMap.mpr ⟨_, hfails, rfl⟩
  rw [h.told, h.stands.errorsIn_eq hmem]
  rfl

/-- A feeder that has closed the pipe by itself, while the process still read, has passed on
everything, or the source has failed. -/
theorem Feeds.readToEnd (h : Feeds start moves c f) (hf : c.feeder = some f)
    (hp : f.phase = .done) (hreader : c.input.readerOpen) (hheld : c.input.held.bytes = []) :
    ReadToEnd start moves c := by
  rcases h.stands.left (.inr hp) with ⟨hnone, hends, hbuffer⟩ | ⟨e, hone⟩
  · -- nothing is left anywhere, so all that was given has been read
    have haccount := h.account
    rw [hheld, hbuffer, List.append_nil, List.append_nil] at haccount
    refine ⟨⟨f, hf, hp⟩, fun _ => ⟨haccount, ?_⟩, fun e => h.failed,
      .inl (h.stands.ended.mp hends)⟩
    rw [h.told, hnone]
    rfl
  · -- the pipe did not fail, as it was still read, so the source did
    have hmem : e ∈ errorsIn (fed moves) := by simp [hone]
    obtain ⟨event, hevent, herror⟩ := List.mem_filterMap.mp hmem
    have hfails : .sourceFails e ∈ fed moves := by
      cases event with
      | sourceFails =>
        cases herror
        exact hevent
      | pipeFails e' =>
        rw [h.reader e' hevent] at hreader
        cases hreader
      | fill | sourceEnds | write | close | stop => cases herror
    refine ⟨⟨f, hf, hp⟩, fun hends => ?_, fun e => h.failed, .inr ⟨e, hfails⟩⟩
    exact absurd hfails (h.stands.sound hends e)

/-- A feeder that has not closed the pipe, with no bytes in it, closes it, or writes, or waits for
the source. -/
theorem Feeds.goesOn (h : Feeds start moves c f) (hf : c.feeder = some f)
    (hcapacity : 0 < c.capacity) (hreader : c.input.readerOpen) (hheld : c.input.held.bytes = [])
    (hover : f.isOver = false) :
    (∃ event c', c.step (.feeder event) = some c' ∧ (event = .close ∨ ∃ n, event = .write n)) ∨
      f.phase = .copying ∧ f.buffer = [] ∧ f.sourceEnded = false := by
  have writes (event : FeederEvent) (hevent : event = .close ∨ ∃ n, event = .write n)
      (hsome : (c.step (.feeder event)).isSome) :
      ∃ event c', c.step (.feeder event) = some c' ∧
        (event = .close ∨ ∃ n, event = .write n) := by
    obtain ⟨c', hstep⟩ := Option.isSome_iff_exists.mp hsome
    exact ⟨event, c', hstep, hevent⟩
  cases hp : f.phase with
  | done | stopped => simp [Feeder.isOver, hp] at hover
  | closing =>
    refine .inl (writes .close (.inl rfl) ?_)
    simp [step, feed, stepFeeder, hf, Feeder.step, hp]
  | copying =>
    cases hbuffer : f.buffer with
    | nil =>
      have hends : f.sourceEnded = false :=
        Bool.eq_false_iff.mpr fun hends => (h.stands.copying hp).2 hends hbuffer
      exact .inr ⟨rfl, rfl, hends⟩
    | cons b rest =>
      refine .inl (writes (.write 1) (.inr ⟨1, rfl⟩) ?_)
      have hwriter : c.input.writerOpen := by rw [h.writer, hover]; rfl
      have hlength : c.input.held.length = 0 := by rw [← Queue.length_bytes, hheld]; rfl
      have hroom : 1 ≤ c.input.room := by
        rw [Pipe.room, hlength, h.capacity]
        exact hcapacity
      have hwrite : (c.input.write [b]).isSome := by simp [Pipe.write, hwriter, hreader, hroom]
      obtain ⟨input, hwrite⟩ := Option.isSome_iff_exists.mp hwrite
      simp [step, feed, stepFeeder, hf, Feeder.step, hp, hbuffer, hwrite]

/-- When a process has seen the end, the feeder has closed the pipe by itself. -/
theorem readToEnd_of_seesEnd (ran : (ofRequest r launch limit capacity).run moves = some c)
    (h : c.SeesEnd) : ReadToEnd (ofRequest r launch limit capacity) moves c := by
  obtain ⟨hs, hend⟩ := seesEnd_iff.mp h.ends
  obtain ⟨hheld, hclosed⟩ := hend h.supplied
  obtain ⟨f, hf, feeds⟩ := (inputBooks_of_run ran).feeder hs h.supplied
  have hwriter := feeds.writer
  rw [hclosed] at hwriter
  cases hp : f.phase with
  | copying | closing => simp [Feeder.isOver, hp] at hwriter
  | stopped =>
    have hreturned := (orderly_of_run ran).1.asked (feeds.asked hp)
    rw [h.unreturned] at hreturned
    cases hreturned
  | done => exact feeds.readToEnd hf hp h.reads hheld

/-- What a process has read to the end stays as it is. -/
theorem ReadToEnd.later {b : Call} (h : ReadToEnd start before b)
    (hstart : start.run before = some b) (hfeeder : c.feeder = b.feeder) (hfed : fed after = [])
    (hfaults : c.faultsOf .stdin = b.faultsOf .stdin)
    (hfirst : start.getsIn (before ++ after) <+: filledIn (fed (before ++ after))) :
    ReadToEnd start (before ++ after) c := by
  have hsame : fed (before ++ after) = fed before := by rw [fed_append, hfed, List.append_nil]
  rw [hsame] at hfirst
  refine ⟨by rw [hfeeder]; exact h.closed, ?_, ?_, by rw [hsame]; exact h.either⟩
  · rw [hsame, hfaults]
    intro hends
    obtain ⟨hwhole, hnone⟩ := h.whole hends
    refine ⟨?_, hnone⟩
    have hmore : filledIn (fed before) <+: start.getsIn (before ++ after) := by
      rw [← hwhole, getsIn_append hstart]
      exact List.prefix_append _ _
    exact hfirst.eq_of_length_le hmore.length_le
  · rw [hsame, hfaults]
    exact h.broken

/-- A process is fed with what the source gives, in order, and sees the end only when there is no
more. If it reads to the end it has read everything, or else the source has failed, and this is
reported once. -/
theorem the_input_is_passed_on_whole
    (ran : (ofRequest r launch limit capacity).run moves = some c) :
    FeedsProcess (ofRequest r launch limit capacity) moves c := by
  have books := inputBooks_of_run ran
  refine ⟨books.first, ?_, ?_, ?_, ?_, ?_, ?_⟩
  · intro hstdin hend
    obtain ⟨hs, hend⟩ := seesEnd_iff.mp hend
    obtain ⟨f, hf, feeds⟩ := books.feeder hs hstdin
    have hwriter := feeds.writer
    rw [(hend hstdin).2] at hwriter
    exact ⟨f, hf, by simpa using hwriter⟩
  · intro before after b hmoves hb hsees
    subst hmoves
    rw [run_append, hb, Option.bind_some] at ran
    have toEnd := readToEnd_of_seesEnd hb hsees
    obtain ⟨f, hf, hp⟩ := toEnd.closed
    obtain ⟨hs, -⟩ := seesEnd_iff.mp hsees.ends
    have hover : f.isOver := by simp [Feeder.isOver, hp]
    obtain ⟨hfeeder, hfed, hfaults⟩ := rests_of_over (orderly_of_run hb).1 hf hover hs ran
    exact toEnd.later hb (hfeeder.trans hf.symm) hfed hfaults books.first
  · intro hrunning hwaits
    by_contra hreturned
    have hsome := Option.isSome_iff_ne_none.mpr hreturned
    obtain ⟨e, he⟩ := (accounted_of_run ran).lost hsome (.inl hrunning)
    exact hwaits e he
  · intro e hfails
    cases books with
    | unfed _ _ hnone =>
      rw [hnone] at hfails
      cases hfails
    | feeds f _ _ feeds => exact feeds.failed hfails
  · cases books with
    | unfed _ _ _ _ htold => simp [htold]
    | feeds f _ _ feeds =>
      rw [feeds.told, List.length_map]
      exact feeds.stands.few
  · intro hcapacity hs hstdin hreader hheld hend
    obtain ⟨f, hf, feeds⟩ := books.feeder hs hstdin
    have hempty := Queue.isEmpty_iff.mp hheld
    have hover : f.isOver = false := by
      by_contra hover
      have hwriter := feeds.writer
      have hdone : f.isOver := by simpa using hover
      rw [hdone] at hwriter
      have hsees := seesEnd_iff.mpr ⟨hs, fun _ => ⟨hempty, hwriter⟩⟩
      rw [hend] at hsees
      cases hsees
    rcases feeds.goesOn hf hcapacity hreader hempty hover with hgoes | hwaits
    · exact .inl hgoes
    · exact .inr ⟨f, hf, hwaits⟩

/-- The source gives more than the pipe can hold, and the process reads it in other pieces. -/
def fedCourse : List Move :=
  [.enter, .spawn, .feeder (.fill [1, 2, 3, 4]), .feeder (.write 3), .childReads 2,
    .feeder (.write 1), .feeder (.fill [5]), .feeder .sourceEnds, .childReads 2,
    .feeder (.write 1), .feeder .close, .childReads 1]

theorem five_bytes_are_read_to_the_end :
    ∃ c, smallCall.run fedCourse = some c ∧ c.SeesEnd ∧
      smallCall.getsIn fedCourse = [1, 2, 3, 4, 5] ∧ c.faultsOf .stdin = [] := by
  have hend : (smallCall.run fedCourse).map (fun c => (c.hasStdin, c.input.readerOpen,
      (c.step .childSeesEnd).isSome, c.outcome?)) = some (true, true, true, none) := rfl
  obtain ⟨c, ran, hc⟩ := Option.map_eq_some_iff.mp hend
  obtain ⟨hstdin, hreader, hsees, hout⟩ : _ ∧ _ ∧ _ ∧ _ := by simpa only [Prod.mk.injEq] using hc
  have sees : c.SeesEnd := ⟨hstdin, hreader, hsees, hout⟩
  have law := the_input_is_passed_on_whole ran
  have toEnd := law.ended fedCourse [] c (List.append_nil _).symm ran sees
  obtain ⟨hwhole, hnone⟩ := toEnd.whole (by decide)
  exact ⟨c, ran, sees, hwhole.trans rfl, hnone⟩

end GitSteward.Call
