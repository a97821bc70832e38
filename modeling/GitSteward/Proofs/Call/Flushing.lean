-- What a client sees of an output while its process goes on. A copier flushes its sink once, at the
-- end. Until then every byte that came along the line has been written to the sink, and none has
-- been flushed, so a sink that keeps bytes back keeps them back while the process waits.
import GitSteward.Cli
import GitSteward.Proofs.Call.Outputs
import Mathlib.Data.List.DropRight
import Mathlib.Data.List.TakeDrop

namespace GitSteward

/-! ## Whole lines -/

theorem wholeLines_eq_self {bytes : Bytes} :
    Cli.wholeLines bytes = bytes ↔ bytes = [] ∨ bytes.getLast? = some 0x0A := by
  have hdrop : Cli.wholeLines bytes = bytes.rdropWhile (· ≠ 0x0A) := rfl
  rw [hdrop, List.rdropWhile_eq_self_iff]
  cases hlast : bytes.getLast? with
  | none => simp [List.getLast?_eq_none_iff.mp hlast]
  | some byte =>
    have hne : bytes ≠ [] := by
      rintro rfl
      cases hlast
    have hbyte : bytes.getLast hne = byte := by
      rw [List.getLast?_eq_some_getLast hne] at hlast
      exact Option.some.inj hlast
    simp [hne, hbyte]

theorem length_le_wholeLines {bytes : Bytes} :
    bytes.length ≤ (Cli.wholeLines bytes).length ↔ bytes = [] ∨ bytes.getLast? = some 0x0A := by
  have hfirst : Cli.wholeLines bytes <+: bytes := List.rdropWhile_prefix _ _
  rw [← wholeLines_eq_self]
  exact ⟨hfirst.eq_of_length_le, fun h => by rw [h]⟩

/-! ## What is held back -/

namespace Call

variable {c : Call} {moves : List Move} {s : StreamName} {copier : Copier}
variable {r : Request} {launch : Launch} {limit capacity : Nat}

/-- The copier of an output waits for the process to write more. Its sink has not failed. -/
structure Suspended (c : Call) (s : StreamName) (copier : Copier) : Prop where
  copies : c.copierOf s = some copier
  reading : copier.phase = .reading
  sinkOk : copier.sinkOk
  emptied : (c.pipeOf s).held.isEmpty
  writer : (c.pipeOf s).writerOpen

/-- A copier that waits has written everything to its sink. -/
theorem taken_of_suspended (ran : (ofRequest r launch limit capacity).run moves = some c)
    (h : c.Suspended s copier) : copier.taken.bytes = written s moves ∧ copier.flushed = 0 := by
  have hl : c.line? s = some { pipe := c.pipeOf s, copier } := by simp [line?, h.copies]
  obtain ⟨got, books⟩ := books_of_line ran hl
  have hwhole := books.copier.whole h.sinkOk (by simp [h.reading])
  simp only [Copier.pending, h.reading, List.append_nil] at hwhole
  have haccount := books.account
  simp only [Queue.isEmpty_iff.mp h.emptied, List.append_nil] at haccount
  exact ⟨hwhole.trans haccount, books.copier.unflushed (by simp [h.reading])⟩

/-- While a copier waits for more, all that came along its line has been written to the sink, and
nothing has been flushed. So everything has been flushed only if nothing was written yet. A sink
that passes some bytes on by itself shows everything only if it passes all of them on. The one
that passes on whole lines does so only when the last byte ends a line. -/
theorem nothing_is_flushed_before_the_end
    (ran : (ofRequest r launch limit capacity).run moves = some c) (h : c.Suspended s copier) :
    copier.taken.bytes = written s moves ∧ copier.flushed = 0 ∧
      (copier.flushed = copier.taken.length ↔ written s moves = []) ∧
      (∀ passes, copier.shown passes = written s moves ↔
        (written s moves).length ≤ passes (written s moves)) ∧
      (copier.shown (fun taken => (Cli.wholeLines taken).length) = written s moves ↔
        written s moves = [] ∨ (written s moves).getLast? = some 0x0A) := by
  obtain ⟨htaken, hflushed⟩ := taken_of_suspended ran h
  have hshown (passes : Bytes → Nat) : copier.shown passes = written s moves ↔
      (written s moves).length ≤ passes (written s moves) := by
    rw [Copier.shown, hflushed, htaken, Nat.zero_max, List.take_eq_self_iff]
  refine ⟨htaken, hflushed, ?_, hshown, (hshown _).trans length_le_wholeLines⟩
  rw [hflushed, ← Tape.length_bytes, htaken, eq_comm, List.length_eq_zero_iff]

/-- The process asks for something, in half a line, and waits. -/
def promptCourse : List Move :=
  [.enter, .spawn, .childWrites .stdout [0x3F, 0x20], .copierReads .stdout 2,
    .copier .stdout (.sink (.takes 2))]

theorem suspended_after_prompt : ∃ c copier, smallCall.run promptCourse = some c ∧
    c.Suspended .stdout copier := by
  have hend : (smallCall.run promptCourse).map (fun c => (c.outCopier.map fun k =>
      (k.phase, k.sinkOk), c.output.held.isEmpty, c.output.writerOpen)) =
      some (some (.reading, true), true, true) := rfl
  obtain ⟨c, ran, hc⟩ := Option.map_eq_some_iff.mp hend
  obtain ⟨hcopier, emptied, writer⟩ : _ ∧ _ ∧ _ := by simpa only [Prod.mk.injEq] using hc
  obtain ⟨copier, copies, hk⟩ := Option.map_eq_some_iff.mp hcopier
  obtain ⟨reading, sinkOk⟩ := Prod.mk.inj hk
  exact ⟨c, copier, ran, { copies, reading, sinkOk, emptied, writer }⟩

theorem a_prompt_is_held_back :
    ∃ c copier, smallCall.run promptCourse = some c ∧ c.Suspended .stdout copier ∧
      copier.taken.bytes = [0x3F, 0x20] ∧ copier.flushed = 0 ∧
      copier.shown (fun taken => (Cli.wholeLines taken).length) ≠ [0x3F, 0x20] := by
  obtain ⟨c, copier, ran, h⟩ := suspended_after_prompt
  obtain ⟨htaken, hflushed, _, _, hshown⟩ := nothing_is_flushed_before_the_end ran h
  exact ⟨c, copier, ran, h, htaken, hflushed, fun hs => absurd (hshown.mp hs) (by decide)⟩

/-- So not everything that a copier has read is flushed when it waits for more. -/
theorem not_all_is_flushed_when_a_copier_waits :
    ¬ ∀ moves c copier, smallCall.run moves = some c → c.Suspended .stdout copier →
      copier.taken.bytes = written .stdout moves ∧ copier.flushed = copier.taken.length := by
  intro all
  obtain ⟨c, copier, ran, h⟩ := suspended_after_prompt
  obtain ⟨htaken, hlength⟩ := all promptCourse c copier ran h
  have hflushed := (taken_of_suspended ran h).2
  rw [hflushed, ← Tape.length_bytes, htaken] at hlength
  exact absurd hlength (by decide)

end Call

end GitSteward
