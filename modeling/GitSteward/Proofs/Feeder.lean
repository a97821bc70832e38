-- The laws of a feeder: bytes of the source go into the pipe in order or wait in its buffer, and
-- the first error, if there is one, is the only fault that it reports.
import GitSteward.Call.Feeder
import Mathlib.Data.List.Basic

namespace GitSteward

namespace FeederEvent

/-- The bytes that the source gives in an event. -/
def filled : FeederEvent → Bytes
  | .fill bytes => bytes
  | _ => []

/-- The bytes that go from a buffer into the pipe in an event. -/
def put (buffer : Bytes) : FeederEvent → Bytes
  | .write count => buffer.take count
  | _ => []

/-- The error with which feeding fails. -/
def error? : FeederEvent → Option SystemError
  | .sourceFails e | .pipeFails e => some e
  | _ => none

end FeederEvent

/-- All bytes that the source gives in some events. -/
def filledIn (events : List FeederEvent) : Bytes := events.flatMap FeederEvent.filled

/-- The errors with which feeding fails in some events. -/
def errorsIn (events : List FeederEvent) : List SystemError :=
  events.filterMap FeederEvent.error?

namespace Feeder

variable {f f' : Feeder} {event : FeederEvent} {events : List FeederEvent} {faults : List Fault}

/-! ## What a feeder may do -/

/-- Everything that a feeder may do in one step. -/
inductive Turn (f : Feeder) : FeederEvent → Feeder → List Fault → Prop
  | fills (bytes : Bytes) : f.phase = .copying → f.sourceEnded = false → bytes ≠ [] →
      f.buffer.length + bytes.length ≤ feederRoom →
      Turn f (.fill bytes) { f with buffer := f.buffer ++ bytes } []
  | sourceEnds : f.phase = .copying → f.sourceEnded = false →
      Turn f .sourceEnds
        { f with
          sourceEnded := true
          phase := if f.buffer.isEmpty then .closing else .copying } []
  | sourceFails (e : SystemError) : f.phase = .copying → f.sourceEnded = false →
      Turn f (.sourceFails e) { f with phase := .closing } [.streamCopy .stdin e]
  | writes (n : Nat) : f.phase = .copying → 0 < n → n ≤ f.buffer.length →
      Turn f (.write n)
        { f with
          buffer := f.buffer.drop n
          phase := if (f.buffer.drop n).isEmpty && f.sourceEnded then .closing else .copying } []
  | pipeFails (e : SystemError) : f.phase = .copying → f.buffer ≠ [] →
      Turn f (.pipeFails e) { f with phase := .closing } [.streamCopy .stdin e]
  | closes : f.phase = .closing → Turn f .close { f with phase := .done } []
  | stops : f.isOver = false → Turn f .stop { f with phase := .stopped } []

theorem turn_of_step (h : f.step event = some (f', faults)) : Turn f event f' faults := by
  unfold step at h
  split at h
  all_goals try cases h
  · rename_i bytes hp
    split at h
    · cases h
    · rename_i hb
      cases h
      simp only [Bool.or_eq_true, decide_eq_true_eq, not_or, List.isEmpty_iff] at hb
      exact .fills bytes hp (by simpa using hb.1.1) hb.1.2 (by omega)
  · rename_i hp
    split at h
    · cases h
    · cases h
      exact .sourceEnds hp (by simp_all)
  · rename_i e hp
    split at h
    · cases h
    · cases h
      exact .sourceFails e hp (by simp_all)
  · rename_i n hp
    split at h
    · cases h
    · rename_i hn
      cases h
      simp only [Bool.or_eq_true, decide_eq_true_eq, not_or] at hn
      exact .writes n hp (by omega) (by omega)
  · rename_i e hp
    split at h
    · cases h
    · cases h
      exact .pipeFails e hp (by simp_all)
  · exact .closes ‹_›
  · exact .stops (by cases hp : f.phase <;> simp_all [isOver])

/-- A feeder that is over takes no turn. -/
theorem Turn.not_over (t : Turn f event f' faults) : f.isOver = false := by
  cases t with
  | stops h => exact h
  | fills _ hp | sourceEnds hp | sourceFails _ hp | writes _ hp | pipeFails _ hp | closes hp =>
    simp [isOver, hp]

/-- A feeder that goes on copying has been neither closed nor stopped. -/
theorem Turn.over_iff (t : Turn f event f' faults) :
    f'.isOver ↔ event = .close ∨ event = .stop := by
  cases t with
  | fills _ hp | sourceFails _ hp | pipeFails _ hp => simp [isOver, hp]
  | sourceEnds => by_cases h : f.buffer = [] <;> simp [isOver, h]
  | writes n => by_cases h : (f.buffer.drop n).isEmpty && f.sourceEnded <;> simp [isOver, h]
  | closes | stops => simp [isOver]

/-- A feeder stops only when it is told to. -/
theorem Turn.told_to_stop (t : Turn f event f' faults) (hp : f'.phase = .stopped) :
    event = .stop := by
  cases t with
  | stops => rfl
  | fills _ h => simp [h] at hp
  | sourceEnds => by_cases h : f.buffer = [] <;> simp [h] at hp
  | writes n => by_cases h : (f.buffer.drop n).isEmpty && f.sourceEnded <;> simp [h] at hp
  | sourceFails | pipeFails | closes => cases hp

/-- What the source gives comes behind what waits, and what the pipe takes is the first part. -/
theorem Turn.buffer_eq (t : Turn f event f' faults) :
    f.buffer ++ event.filled = event.put f.buffer ++ f'.buffer := by
  cases t with
  | writes n => simp [FeederEvent.filled, FeederEvent.put]
  | fills | sourceEnds | sourceFails | pipeFails | closes | stops =>
    simp [FeederEvent.filled, FeederEvent.put]

theorem Turn.faults_eq (t : Turn f event f' faults) :
    faults = event.error?.toList.map (.streamCopy .stdin) := by
  cases t <;> rfl

/-! ## How a feeder stands -/

/-- How a feeder stands after some events. -/
structure Stands (f : Feeder) (events : List FeederEvent) : Prop where
  ended : f.sourceEnded = true ↔ .sourceEnds ∈ events
  /-- a source that has ended does not fail -/
  sound : .sourceEnds ∈ events → ∀ e, .sourceFails e ∉ events
  few : (errorsIn events).length ≤ 1
  copying : f.phase = .copying → errorsIn events = [] ∧ (f.sourceEnded → f.buffer ≠ [])
  /-- the pipe is left when everything has been passed on, or when something has failed -/
  left : f.phase = .closing ∨ f.phase = .done →
    (errorsIn events = [] ∧ f.sourceEnded ∧ f.buffer = []) ∨ ∃ e, errorsIn events = [e]

theorem stands_fresh : Stands {} [] :=
  ⟨by simp, nofun, by simp [errorsIn], fun _ => ⟨rfl, nofun⟩, fun h => by simp at h⟩

theorem errorsIn_snoc (events : List FeederEvent) (event : FeederEvent) :
    errorsIn (events ++ [event]) = errorsIn events ++ event.error?.toList := by
  unfold errorsIn
  rw [List.filterMap_append]
  cases h : event.error? <;> simp [h]

/-- In an event in which nothing fails the source stays as it was, or ends. -/
theorem Stands.next (h : Stands f events) (herror : event.error? = none)
    (hended : f'.sourceEnded = true ↔ f.sourceEnded = true ∨ event = .sourceEnds)
    (hsound : event = .sourceEnds → ∀ e, .sourceFails e ∉ events)
    (hcopying : f'.phase = .copying → f.phase = .copying ∧ (f'.sourceEnded → f'.buffer ≠ []))
    (hleft : f'.phase = .closing ∨ f'.phase = .done →
      (errorsIn events = [] ∧ f'.sourceEnded ∧ f'.buffer = []) ∨ ∃ e, errorsIn events = [e]) :
    Stands f' (events ++ [event]) := by
  have hsame : errorsIn (events ++ [event]) = errorsIn events := by
    rw [errorsIn_snoc, herror]
    exact List.append_nil _
  have hnone (e : SystemError) : .sourceFails e ≠ event := by
    rintro rfl
    cases herror
  refine ⟨?_, ?_, by rw [hsame]; exact h.few, ?_, by rw [hsame]; exact hleft⟩
  · rw [hended, h.ended, List.mem_append, List.mem_singleton, eq_comm]
  · intro hmem e
    rw [List.mem_append, List.mem_singleton] at hmem ⊢
    rintro (hfails | hfails)
    · rcases hmem with hmem | hmem
      · exact h.sound hmem e hfails
      · exact hsound hmem.symm e hfails
    · exact hnone e hfails
  · intro hp
    obtain ⟨hp, hbuffer⟩ := hcopying hp
    exact ⟨by rw [hsame]; exact (h.copying hp).1, hbuffer⟩

/-- When the first thing fails the pipe is left. -/
theorem Stands.fails (h : Stands f events) (hp : f.phase = .copying) {e : SystemError}
    (herror : event.error? = some e)
    (hsound : ∀ e, event = .sourceFails e → f.sourceEnded = false) :
    Stands { f with phase := .closing } (events ++ [event]) := by
  have hone : errorsIn (events ++ [event]) = [e] := by
    rw [errorsIn_snoc, herror, (h.copying hp).1]
    rfl
  have hends : .sourceEnds ≠ event := by
    rintro rfl
    cases herror
  have hmem : .sourceEnds ∈ events ++ [event] ↔ .sourceEnds ∈ events := by
    simp [hends]
  refine ⟨?_, ?_, by simp [hone], nofun, fun _ => .inr ⟨e, hone⟩⟩
  · rw [hmem]
    exact h.ended
  · intro hend e' hfails
    rw [hmem] at hend
    rcases List.mem_append.mp hfails with hfails | hfails
    · exact h.sound hend e' hfails
    · have hnot := hsound e' (List.mem_singleton.mp hfails).symm
      rw [h.ended.mpr hend] at hnot
      cases hnot

/-- The first error is the only one. -/
theorem Stands.errorsIn_eq (h : Stands f events) {e : SystemError} (hmem : e ∈ errorsIn events) :
    errorsIn events = [e] := by
  have hfew := h.few
  cases herrors : errorsIn events with
  | nil =>
    rw [herrors] at hmem
    cases hmem
  | cons first rest =>
    rw [herrors] at hmem hfew
    have hrest : rest = [] := List.length_eq_zero_iff.mp (by simpa using hfew)
    subst hrest
    rw [List.mem_singleton.mp hmem]

theorem sourceFails_notMem (h : errorsIn events = []) (e : SystemError) :
    .sourceFails e ∉ events := fun hmem => by
  have hnone := List.filterMap_eq_nil_iff.mp h _ hmem
  cases hnone

/-- Each turn leaves the feeder standing in this way. -/
theorem Turn.stands (t : Turn f event f' faults) (h : Stands f events) :
    Stands f' (events ++ [event]) := by
  cases t with
  | fills bytes hp hsource =>
    refine h.next rfl (by simp) nofun (fun _ => ⟨hp, ?_⟩) (by simp [hp])
    intro hends
    rw [hsource] at hends
    cases hends
  | sourceEnds hp =>
    obtain ⟨hnone, -⟩ := h.copying hp
    refine h.next rfl (by simp) (fun _ => sourceFails_notMem hnone) ?_ ?_
    · by_cases hbuffer : f.buffer = [] <;> simp [hbuffer, hp]
    · by_cases hbuffer : f.buffer = [] <;> simp [hbuffer, hnone]
  | sourceFails e hp hsource => exact h.fails hp rfl fun _ _ => hsource
  | writes n hp =>
    obtain ⟨hnone, -⟩ := h.copying hp
    by_cases hlast : (f.buffer.drop n).isEmpty && f.sourceEnded
    · obtain ⟨hbuffer, hends⟩ := Bool.and_eq_true_iff.mp hlast
      rw [if_pos hlast]
      exact h.next rfl (by simp) nofun nofun fun _ =>
        .inl ⟨hnone, hends, List.isEmpty_iff.mp hbuffer⟩
    · rw [if_neg hlast]
      refine h.next rfl (by simp) nofun (fun _ => ⟨hp, fun hends hbuffer => hlast ?_⟩) (by simp)
      rw [Bool.and_eq_true]
      exact ⟨List.isEmpty_iff.mpr hbuffer, hends⟩
  | pipeFails e hp => exact h.fails hp rfl nofun
  | closes hp => exact h.next rfl (by simp) nofun nofun fun _ => h.left (.inl hp)
  | stops => exact h.next rfl (by simp) nofun nofun (by simp)

end Feeder

end GitSteward
