-- A session makes no moves but those that an engine at work allows. Whatever its machine and its
-- clients do, its workload has come about by such moves from what it was before. So what every move
-- keeps holds at the end of a session too.
import GitSteward.Host.Session

namespace GitSteward

/-- A workload has come about from another one by moves, and by lines that others have written to
the log. -/
inductive Workload.Becomes (w : Workload) : Workload → Prop
  | here : Becomes w w
  | moved {v v' : Workload} {m : WorkloadMove} : Becomes w v → v.step m = some v' → Becomes w v'
  | told {v : Workload} (e : LogEvent) : Becomes w v → Becomes w (v.write e)

namespace Host.Session

variable {w : Workload} {s s' : Session} {i : Nat} {c : Client} {call : Call} {cancelled : Bool}

/-! ## Moves of one request -/

theorem becomes_step (h : w.Becomes s.workload) (m : WorkloadMove) :
    w.Becomes (s.step m).workload := by
  unfold step
  split
  · rename_i hs
    exact h.moved hs
  · exact h

theorem becomes_make (h : w.Becomes s.workload) (i : Nat) (m : Move) :
    w.Becomes (s.make i m).workload := becomes_step h _

theorem becomes_makeAll (h : w.Becomes s.workload) (i : Nat) (moves : List Move) :
    w.Becomes (moves.foldl (·.make i ·) s).workload := by
  induction moves generalizing s with
  | nil => exact h
  | cons m rest ih => exact ih (becomes_make h i m)

theorem becomes_spawn (h : w.Becomes s.workload) (i : Nat) (c : Client) (call : Call) :
    w.Becomes (s.spawn i c call).workload := by
  unfold spawn
  split
  · exact becomes_make h i _
  · refine becomes_make ?_ i _
    exact h

theorem becomes_killChild (h : w.Becomes s.workload) (i : Nat) (c : Client) :
    w.Becomes (s.killChild i c).workload := by
  refine becomes_make ?_ i _
  exact h

theorem becomes_closeStream (h : w.Becomes s.workload) (hs : s.closeStream i call = some s') :
    w.Becomes s'.workload := by
  obtain ⟨stream, _, rfl⟩ := Option.map_eq_some_iff.mp hs
  exact becomes_make h i _

theorem becomes_noticeEnd (h : w.Becomes s.workload) (hs : s.noticeEnd i c call = some s') :
    w.Becomes s'.workload := by
  obtain ⟨pid, _, hs⟩ := Option.bind_eq_some_iff.mp hs
  obtain ⟨p, _, hs⟩ := Option.bind_eq_some_iff.mp hs
  obtain ⟨stop, _, hs⟩ := Option.bind_eq_some_iff.mp hs
  split at hs
  · cases hs
    exact becomes_make h i _
  · cases hs

theorem becomes_forget (h : w.Becomes s.workload) (hs : s.forget i c call = some s') :
    w.Becomes s'.workload := by
  obtain ⟨pid, _, hs⟩ := Option.bind_eq_some_iff.mp hs
  split at hs
  · cases hs
    exact h
  · cases hs

theorem becomes_goOn (h : w.Becomes s.workload) (hs : s.goOn i call = some s') :
    w.Becomes s'.workload := by
  obtain ⟨machine, _, hs⟩ := Option.bind_eq_some_iff.mp hs
  cases hs
  refine becomes_makeAll ?_ i _
  exact h

theorem becomes_advanceStreams (h : w.Becomes s.workload)
    (hs : s.advanceStreams i c call = some s') : w.Becomes s'.workload := by
  simp only [advanceStreams, Option.orElse_eq_orElse, Option.orElse_eq_or,
    Option.or_eq_some_iff] at hs
  rcases hs with hs | ⟨_, hs | ⟨_, hs | ⟨_, hs⟩⟩⟩
  · obtain ⟨turn, _, rfl⟩ := Option.map_eq_some_iff.mp hs
    refine becomes_make ?_ i _
    exact h
  · exact becomes_closeStream h hs
  · exact becomes_noticeEnd h hs
  · exact becomes_goOn h hs

theorem becomes_advanceCall (h : w.Becomes s.workload)
    (hs : s.advanceCall i c call cancelled = some s') : w.Becomes s'.workload := by
  unfold advanceCall at hs
  split at hs
  · cases hs
    exact becomes_killChild h i c
  · cases hs
    exact becomes_make h i _
  · simp only [Option.orElse_eq_orElse, Option.orElse_eq_or, Option.or_eq_some_iff] at hs
    rcases hs with hs | ⟨_, hs⟩
    · exact becomes_forget h hs
    · exact becomes_advanceStreams h hs
  · split at hs
    · cases hs
      exact becomes_make h i _
    · simp only [Option.orElse_eq_orElse, Option.orElse_eq_or, Option.or_eq_some_iff] at hs
      rcases hs with hs | ⟨_, hs⟩
      · exact becomes_advanceStreams h hs
      · split at hs
        · cases hs
          exact becomes_make h i _
        · cases hs

theorem becomes_advanceJob (h : w.Becomes s.workload) (hs : s.advanceJob i = some s') :
    w.Becomes s'.workload := by
  obtain ⟨job, _, hs⟩ := Option.bind_eq_some_iff.mp hs
  obtain ⟨c, _, hs⟩ := Option.bind_eq_some_iff.mp hs
  split at hs
  · cases hs
    exact becomes_step h _
  · cases hw : job.work with
    | refused => simp [hw] at hs
    | handler run =>
      simp only [hw] at hs
      cases hp : run.phase with
      | called =>
        simp only [hp, Option.pure_def, Option.some.injEq] at hs
        exact hs ▸ becomes_step h _
      | writing left =>
        simp only [hp, Option.pure_def, Option.some.injEq] at hs
        refine hs ▸ becomes_step ?_ _
        exact h
      | waiting =>
        simp only [hp] at hs
        split at hs
        · cases hs
          exact becomes_step h _
        · cases hs
      | ended => simp [hp] at hs
    | process call =>
      simp only [hw] at hs
      cases hp : call.phase with
      | entering =>
        simp only [hp, Option.pure_def, Option.some.injEq] at hs
        exact hs ▸ becomes_make h i _
      | starting =>
        simp only [hp, Option.pure_def, Option.some.injEq] at hs
        exact hs ▸ becomes_spawn h i c call
      | draining | waiting | killing | returned =>
        simp only [hp] at hs
        exact becomes_advanceCall h hs

/-! ## The next thing that happens -/

theorem becomes_noticeOutput (h : w.Becomes s.workload) (hs : s.noticeOutput i = some s') :
    w.Becomes s'.workload := by
  obtain ⟨c, _, hs⟩ := Option.bind_eq_some_iff.mp hs
  split at hs
  · split at hs
    · cases hs
      exact h
    · cases hs
  · cases hs

theorem becomes_cancelDue (h : w.Becomes s.workload) (hs : s.cancelDue i = some s') :
    w.Becomes s'.workload := by
  obtain ⟨c, _, hs⟩ := Option.bind_eq_some_iff.mp hs
  split at hs
  · split at hs
    · cases hs
      refine becomes_step ?_ _
      exact h
    · cases hs
  · cases hs

theorem becomes_wait (h : w.Becomes s.workload) (hs : s.wait = some s') :
    w.Becomes s'.workload := by
  obtain ⟨time, _, hs⟩ := Option.bind_eq_some_iff.mp hs
  split at hs
  · cases hs
  · cases hs
    exact becomes_step h _

theorem becomes_next (h : w.Becomes s.workload) (hs : s.next = some s') :
    w.Becomes s'.workload := by
  simp only [next, Option.orElse_eq_orElse, Option.orElse_eq_or, Option.or_eq_some_iff] at hs
  rcases hs with hs | ⟨_, hs | ⟨_, hs | ⟨_, hs⟩⟩⟩
  · obtain ⟨i, _, hs⟩ := List.exists_of_findSome?_eq_some hs
    exact becomes_advanceJob h hs
  · obtain ⟨i, _, hs⟩ := List.exists_of_findSome?_eq_some hs
    exact becomes_noticeOutput h hs
  · obtain ⟨i, _, hs⟩ := List.exists_of_findSome?_eq_some hs
    exact becomes_cancelDue h hs
  · split at hs
    · cases hs
    · exact becomes_wait h hs

/-! ## Whole sessions -/

theorem becomes_runFor (stop : Session → Bool) (fuel : Nat) (h : w.Becomes s.workload) :
    w.Becomes (s.runFor stop fuel).workload := by
  induction fuel generalizing s with
  | zero => exact h
  | succ fuel ih =>
    rw [runFor]
    split
    · exact h
    · split
      · rename_i hs
        exact ih (becomes_next h hs)
      · exact h

theorem becomes_settle (h : w.Becomes s.workload) : w.Becomes s.settle.workload :=
  becomes_runFor _ _ h

theorem becomes_runOn (h : w.Becomes s.workload) (span : Nat) :
    w.Becomes (s.runOn span).workload := by
  refine becomes_runFor _ _ ?_
  exact h

end Host.Session

end GitSteward
