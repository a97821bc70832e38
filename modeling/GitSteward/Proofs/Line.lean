-- The laws of one line: of the bytes that have been written into the pipe, the copier has read
-- the first ones, and the others wait. A copier leaves its pipe only at the end of it, or when
-- reading it fails. Both hold after any moves, in any order.
import GitSteward.Call.Line
import GitSteward.Proofs.Copier
import Mathlib.Algebra.GroupWithZero.Nat

namespace GitSteward

/-! ## The pipe -/

namespace Pipe

variable {p q : Pipe}

theorem write_some {bytes : Bytes} (h : p.write bytes = some q) :
    p.writerOpen ∧ p.readerOpen ∧ bytes.length ≤ p.room ∧
      q = { p with held := p.held.append bytes } := by
  unfold write at h
  split at h
  · rename_i hc
    cases h
    simp only [Bool.and_eq_true, decide_eq_true_eq] at hc
    exact ⟨hc.1.1.1, hc.1.1.2, hc.2, rfl⟩
  · cases h

theorem read_some {count : Nat} {bytes : Bytes} (h : p.read count = some (bytes, q)) :
    p.readerOpen ∧ 0 < count ∧ count ≤ p.held.length ∧
      bytes = p.held.bytes.take count ∧ q = { p with held := (p.held.split count).2 } := by
  unfold read at h
  split at h
  · rename_i hc
    cases h
    simp only [Bool.and_eq_true, decide_eq_true_eq] at hc
    exact ⟨hc.1.1, hc.1.2, hc.2, Queue.split_fst _ _, rfl⟩
  · cases h

theorem read_of_le {count : Nat} (ho : p.readerOpen) (h0 : 0 < count)
    (hc : count ≤ p.held.length) :
    p.read count = some (p.held.bytes.take count, { p with held := (p.held.split count).2 }) := by
  simp [read, ho, h0, hc]

end Pipe

/-! ## The course of a line -/

namespace LineMove

/-- The bytes that a move puts into the pipe. -/
def written : LineMove → Bytes
  | .writes bytes => bytes
  | _ => []

/-- How many bytes a move takes out of the pipe. -/
def readCount : LineMove → Nat
  | .reads count => count
  | _ => 0

/-- The error with which reading the pipe fails. -/
def pipeError? : LineMove → Option SystemError
  | .copier event => event.pipeError?
  | _ => none

/-- Whether a move is none of the failures of a pipe or of a sink. -/
def isSmooth : LineMove → Bool
  | .copier event => event.isSmooth
  | _ => true

end LineMove

namespace Line

variable {l l' : Line} {m : LineMove} {moves : List LineMove} {faults : List Fault}

/-- Everything that has been written into the pipe. -/
def written (moves : List LineMove) : Bytes := moves.flatMap LineMove.written

/-- How many bytes have been read from the pipe. -/
def readCount (moves : List LineMove) : Nat := (moves.map LineMove.readCount).sum

/-- The errors with which reading the pipe has failed. -/
def pipeErrors (moves : List LineMove) : List SystemError := moves.filterMap LineMove.pipeError?

/-- Everything that may happen on a line in one step. -/
inductive Turn (l : Line) : LineMove → Line → List Fault → Prop
  | writes (bytes : Bytes) (pipe : Pipe) : l.pipe.write bytes = some pipe →
      Turn l (.writes bytes) { l with pipe } []
  | closes : Turn l .closes { l with pipe := l.pipe.closeWriter } []
  | reads (count : Nat) (bytes : Bytes) (pipe : Pipe) (copier : Copier) (faults : List Fault) :
      l.pipe.read count = some (bytes, pipe) → l.copier.Turn (.read bytes) copier faults →
      Turn l (.reads count) { pipe, copier } faults
  | copier (event : CopierEvent) (copier : Copier) (faults : List Fault) :
      event.bytesRead = [] → (event = .pipeEnds → l.pipe.atEnd) →
      l.copier.Turn event copier faults →
      Turn l (.copier event)
        { pipe := if copier.isOver then l.pipe.closeReader else l.pipe, copier } faults

theorem turn_of_tell {event : CopierEvent} (hb : event.bytesRead = [])
    (he : event = .pipeEnds → l.pipe.atEnd) (h : l.tell event = some (l', faults)) :
    Turn l (.copier event) l' faults := by
  unfold tell at h
  obtain ⟨⟨copier, more⟩, hstep, h⟩ := Option.bind_eq_some_iff.mp h
  cases h
  exact .copier event copier _ hb he (Copier.turn_of_step hstep)

theorem turn_of_step (h : l.step m = some (l', faults)) : Turn l m l' faults := by
  cases m with
  | writes bytes =>
    obtain ⟨pipe, hw, h⟩ := Option.map_eq_some_iff.mp h
    cases h
    exact .writes bytes pipe hw
  | closes =>
    cases h
    exact .closes
  | reads count =>
    obtain ⟨⟨bytes, pipe⟩, hr, h⟩ := Option.bind_eq_some_iff.mp h
    obtain ⟨⟨copier, more⟩, hstep, h⟩ := Option.bind_eq_some_iff.mp h
    cases h
    exact .reads count bytes pipe copier _ hr (Copier.turn_of_step hstep)
  | copier event =>
    cases event with
    | read bytes => cases h
    | pipeEnds =>
      simp only [step] at h
      split at h
      · exact turn_of_tell rfl (fun _ => ‹_›) h
      · cases h
    | pipeFails | sink | flushed | flushFails | stop => exact turn_of_tell rfl nofun h

theorem run_snoc {start : Line} {more : List Fault} (h : start.run moves = some (l, faults))
    (hm : l.step m = some (l', more)) : start.run (moves ++ [m]) = some (l', faults ++ more) := by
  induction moves generalizing start faults with
  | nil =>
    cases h
    simp [run, hm]
  | cons first rest ih =>
    obtain ⟨⟨k, some⟩, hstep, h⟩ := Option.bind_eq_some_iff.mp h
    obtain ⟨⟨k', others⟩, hrest, h⟩ := Option.bind_eq_some_iff.mp h
    cases h
    simp [run, hstep, ih hrest, List.append_assoc]

/-- What holds of a line at the start and is kept by each move holds after any moves. -/
theorem run_induct {start : Line} {P : List LineMove → Line → List Fault → Prop}
    (init : P [] start [])
    (next : ∀ {moves l faults m l' more}, P moves l faults → Turn l m l' more →
      P (moves ++ [m]) l' (faults ++ more))
    (h : start.run moves = some (l, faults)) : P moves l faults := by
  suffices key : ∀ (rest before : List LineMove) (k : Line) (told more : List Fault),
      P before k told → k.run rest = some (l, more) → P (before ++ rest) l (told ++ more) by
    simpa using key moves [] start [] faults init h
  intro rest
  induction rest with
  | nil =>
    intro before k told more hk hr
    cases hr
    simpa using hk
  | cons m rest ih =>
    intro before k told more hk hr
    obtain ⟨⟨k', some⟩, hstep, hr⟩ := Option.bind_eq_some_iff.mp hr
    obtain ⟨⟨k'', others⟩, hrest, hr⟩ := Option.bind_eq_some_iff.mp hr
    cases hr
    have := ih (before ++ [m]) k' (told ++ some) others (next hk (turn_of_step hstep)) hrest
    simpa using this

/-- A move changes neither the stream, nor the number of bytes that are kept, nor the room. -/
theorem Turn.same (t : Turn l m l' faults) :
    l'.copier.stream = l.copier.stream ∧ l'.copier.limit = l.copier.limit ∧
      l'.pipe.capacity = l.pipe.capacity := by
  cases t with
  | writes bytes pipe hw =>
    obtain ⟨_, _, _, rfl⟩ := Pipe.write_some hw
    exact ⟨rfl, rfl, rfl⟩
  | closes => exact ⟨rfl, rfl, rfl⟩
  | reads count bytes pipe copier _ hr hc =>
    obtain ⟨_, _, _, _, rfl⟩ := Pipe.read_some hr
    exact ⟨hc.same.1, hc.same.2, rfl⟩
  | copier event copier _ _ _ hc =>
    refine ⟨hc.same.1, hc.same.2, ?_⟩
    simp only
    split <;> rfl

theorem same_of_run {stream : StreamName} {limit capacity : Nat}
    (h : (fresh stream limit capacity).run moves = some (l, faults)) :
    l.copier.stream = stream ∧ l.copier.limit = limit ∧ l.pipe.capacity = capacity := by
  refine run_induct (P := fun _ l _ => l.copier.stream = stream ∧ l.copier.limit = limit ∧
    l.pipe.capacity = capacity) ⟨rfl, rfl, rfl⟩ ?_ h
  intro moves l faults m l' more ⟨hs, hl, hc⟩ t
  obtain ⟨hs', hl', hc'⟩ := t.same
  exact ⟨hs'.trans hs, hl'.trans hl, hc'.trans hc⟩

/-- Nothing that happens on a line moves a copier that is done. -/
theorem Turn.done_stays (t : Turn l m l' faults) (h : l.copier.isDone) :
    l'.copier = l.copier ∧ faults = [] := by
  have hover : l.copier.isOver = true := by
    simp only [Copier.isDone, decide_eq_true_eq] at h
    simp [Copier.isOver, h]
  cases t with
  | writes | closes => exact ⟨rfl, rfl⟩
  | reads _ _ _ _ _ _ hc | copier _ _ _ _ _ hc =>
    have := hc.not_over
    simp [hover] at this

/-- A copier stops only when it is told to. -/
theorem Turn.told_to_stop (t : Turn l m l' faults) (h : l'.copier.phase = .stopped) :
    l.copier.phase = .stopped ∨ m = .copier .stop := by
  cases t with
  | writes | closes => exact .inl h
  | reads _ _ _ _ _ _ hc => cases hc.told_to_stop h
  | copier _ _ _ _ _ hc => rw [hc.told_to_stop h]; exact .inr rfl

theorem Turn.faults_name (t : Turn l m l' faults) :
    ∀ f ∈ faults, ∃ e, f = .streamCopy l.copier.stream e := by
  cases t with
  | writes | closes => simp
  | reads _ _ _ _ _ _ hc | copier _ _ _ _ _ hc => exact hc.faults_name

/-! ## The books -/

theorem written_snoc (moves : List LineMove) (m : LineMove) :
    written (moves ++ [m]) = written moves ++ m.written := by simp [written]

theorem readCount_snoc (moves : List LineMove) (m : LineMove) :
    readCount (moves ++ [m]) = readCount moves + m.readCount := by simp [readCount]

/-- What a move takes out of the pipe. -/
def bytesRead (l : Line) (m : LineMove) : Bytes := l.pipe.held.bytes.take m.readCount

/-- The books of a line after moves, with the bytes that its copier has read. -/
structure Books (l : Line) (moves : List LineMove) (got : Bytes) : Prop where
  copier : l.copier.Books got
  /-- what has been written has been read or waits -/
  account : got ++ l.pipe.held.bytes = written moves
  count : got.length = readCount moves
  fits : l.pipe.held.length ≤ l.pipe.capacity
  reader : l.pipe.readerOpen = !l.copier.isOver
  left : l.copier.phase = .flushing ∨ l.copier.phase = .done →
    l.pipe.atEnd ∨ pipeErrors moves ≠ []

theorem books_fresh (stream : StreamName) (limit capacity : Nat) :
    Books (fresh stream limit capacity) [] [] := by
  refine ⟨Copier.books_fresh stream limit, rfl, rfl, Nat.zero_le _, rfl, ?_⟩
  rintro (h | h) <;> cases h

/-- An error of reading is never forgotten. -/
theorem left_snoc {p : Pipe} (h : p.atEnd ∨ pipeErrors moves ≠ []) (m : LineMove) :
    p.atEnd ∨ pipeErrors (moves ++ [m]) ≠ [] := by
  rcases h with h | h
  · exact .inl h
  · right
    simp only [pipeErrors, List.filterMap_append] at h ⊢
    simp [h]

/-- Each move keeps the books. -/
theorem Turn.books {got : Bytes} (t : Turn l m l' faults) (h : Books l moves got) :
    Books l' (moves ++ [m]) (got ++ l.bytesRead m) := by
  cases t with
  | writes bytes pipe hw =>
    obtain ⟨hwriter, hreader, hroom, rfl⟩ := Pipe.write_some hw
    simp only [bytesRead, LineMove.readCount, List.take_zero, List.append_nil]
    refine ⟨h.copier, ?_, ?_, ?_, h.reader, ?_⟩
    · simp [written_snoc, LineMove.written, ← h.account]
    · simp [readCount_snoc, LineMove.readCount, h.count]
    · simp only [Queue.append]
      simp only [Pipe.room] at hroom
      have := h.fits
      omega
    · intro hl
      rcases h.left hl with he | he
      · simp [Pipe.atEnd, hwriter] at he
      · exact left_snoc (.inr he) _
  | closes =>
    simp only [bytesRead, LineMove.readCount, List.take_zero, List.append_nil]
    refine ⟨h.copier, ?_, ?_, h.fits, h.reader, ?_⟩
    · simp [written_snoc, LineMove.written, ← h.account, Pipe.closeWriter]
    · simp [readCount_snoc, LineMove.readCount, h.count]
    · intro hl
      rcases h.left hl with he | he
      · left
        simp only [Pipe.atEnd, Bool.and_eq_true] at he
        simp [Pipe.closeWriter, Pipe.atEnd, he.1]
      · exact left_snoc (.inr he) _
  | reads count bytes pipe copier _ hr hc =>
    obtain ⟨hopen, h0, hle, rfl, rfl⟩ := Pipe.read_some hr
    simp only [bytesRead, LineMove.readCount]
    refine ⟨hc.books h.copier, ?_, ?_, ?_, ?_, ?_⟩
    · rw [Queue.bytes_split, List.append_assoc, List.take_append_drop, h.account, written_snoc]
      simp [LineMove.written]
    · simp [readCount_snoc, LineMove.readCount, h.count, hle]
    · have hfits := h.fits
      have hlen : (l.pipe.held.split count).2.length = l.pipe.held.length - count := by
        rw [← Queue.length_bytes, Queue.bytes_split, List.length_drop, Queue.length_bytes]
      simp only [hlen]
      omega
    · simp [hopen, hc.reads_on]
    · intro hl
      rcases hc.leaves hl with hf | hf | ⟨e, hf⟩
      · exact left_snoc ((h.left (.inl hf)).imp_left fun he => by
          simp [Pipe.atEnd, Queue.isEmpty] at he
          omega) _
      · cases hf
      · cases hf
  | copier event copier _ hb he hc =>
    simp only [bytesRead, LineMove.readCount, List.take_zero, List.append_nil]
    have hpipe : ∀ p : Pipe, p = (if copier.isOver then l.pipe.closeReader else l.pipe) →
        p.held = l.pipe.held ∧ p.capacity = l.pipe.capacity ∧ p.atEnd = l.pipe.atEnd := by
      rintro p rfl
      split <;> exact ⟨rfl, rfl, rfl⟩
    obtain ⟨hheld, hcap, hatEnd⟩ := hpipe _ rfl
    have hbooks := hc.books h.copier
    rw [hb, List.append_nil] at hbooks
    refine ⟨hbooks, ?_, ?_, ?_, ?_, ?_⟩
    · simp only [hheld, h.account, written_snoc, LineMove.written, List.append_nil]
    · simp [readCount_snoc, LineMove.readCount, h.count]
    · simp only [hheld, hcap, h.fits]
    · have hopen : l.pipe.readerOpen = true := by simp [h.reader, hc.not_over]
      by_cases hover : copier.isOver <;> simp [hover, Pipe.closeReader, hopen]
    · intro hl
      simp only [hatEnd]
      rcases hc.leaves hl with hf | rfl | ⟨e, rfl⟩
      · exact left_snoc (h.left (.inl hf)) _
      · exact .inl (he rfl)
      · right
        simp [pipeErrors, LineMove.pipeError?, CopierEvent.pipeError?]

/-- The books of a line are right after any moves from the start. -/
theorem books_of_run {stream : StreamName} {limit capacity : Nat}
    (h : (fresh stream limit capacity).run moves = some (l, faults)) :
    ∃ got, Books l moves got := by
  refine run_induct (P := fun moves l _ => ∃ got, Books l moves got)
    ⟨[], books_fresh stream limit capacity⟩ ?_ h
  intro moves l faults m l' more ⟨got, hb⟩ t
  exact ⟨_, t.books hb⟩

/-- What has been read from the pipe. -/
def arrived (moves : List LineMove) : Bytes := (written moves).take (readCount moves)

theorem Books.got_eq {got : Bytes} (b : Books l moves got) : got = arrived moves := by
  rw [arrived, ← b.account, ← b.count, List.take_left]

/-- A copier that is done has read everything, unless reading failed. -/
theorem Books.whole {got : Bytes} (b : Books l moves got) (hd : l.copier.isDone)
    (he : pipeErrors moves = []) : got = written moves := by
  have hd : l.copier.phase = .done := by simpa [Copier.isDone] using hd
  rcases b.left (.inr hd) with hend | hne
  · simp only [Pipe.atEnd, Bool.and_eq_true] at hend
    rw [← b.account, Queue.isEmpty_iff.mp hend.1, List.append_nil]
  · exact absurd he hne

/-! ## Without failures -/

theorem Turn.smooth (t : Turn l m l' faults) (h : l.copier.Smooth) (hm : m.isSmooth) :
    l'.copier.Smooth := by
  cases t with
  | writes | closes => exact h
  | reads _ _ _ _ _ _ hc => exact hc.smooth h rfl
  | copier _ _ _ _ _ hc => exact hc.smooth h hm

theorem smooth_of_run {stream : StreamName} {limit capacity : Nat}
    (h : (fresh stream limit capacity).run moves = some (l, faults))
    (hs : ∀ m ∈ moves, m.isSmooth) : l.copier.Smooth := by
  refine run_induct (P := fun moves l _ => (∀ m ∈ moves, m.isSmooth) → l.copier.Smooth)
    (fun _ => ⟨rfl, fun hd => by cases hd⟩) ?_ h hs
  intro moves l faults m l' more ih t hs
  have before : l.copier.Smooth := ih fun k hk => hs k (List.mem_append_left _ hk)
  exact t.smooth before (hs m (by simp))

theorem pipeErrors_of_smooth (hs : ∀ m ∈ moves, m.isSmooth) : pipeErrors moves = [] := by
  rw [pipeErrors, List.filterMap_eq_nil_iff]
  intro m hm
  have hsm := hs m hm
  cases m with
  | copier event =>
    cases event with
    | pipeFails e => cases hsm
    | _ => rfl
  | _ => rfl

end Line

end GitSteward
