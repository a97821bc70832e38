-- Requests that do not get in each other's way. Whatever an engine without a deadline is at work
-- on, and however the moves of its requests alternate, each request goes the way that it would
-- also have gone alone. What all requests leave in common is what each leaves, put together.
import GitSteward.Proofs.Workload.Alone
import GitSteward.Proofs.Workload.Tally
import Mathlib.Algebra.BigOperators.Group.List.Basic

namespace GitSteward

/-! ## Lists put together from parts -/

section Mixed

variable {α : Type} {whole more : List α} {part part' : Nat → List α} {count count' k : Nat}

/-- A list that is put together from parts, of which each keeps its order: everything in it is
owned by one of so many. -/
def Mixed (count : Nat) (whole : List α) (part : Nat → List α) : Prop :=
  ∃ owned : List (Nat × α), owned.map (·.2) = whole ∧ (∀ p ∈ owned, p.1 < count) ∧
    ∀ i, part i = (owned.filter (·.1 = i)).map (·.2)

theorem mixed_nil (h : ∀ i, part i = []) : Mixed 0 [] part := ⟨[], rfl, nofun, h⟩

theorem Mixed.congr (h : Mixed count whole part) (hle : count ≤ count')
    (same : ∀ i, part' i = part i) : Mixed count' whole part' := by
  obtain ⟨owned, hw, ho, hp⟩ := h
  exact ⟨owned, hw, fun p hm => Nat.lt_of_lt_of_le (ho p hm) hle, fun i => (same i).trans (hp i)⟩

/-- One of the parts becomes longer, and the whole with it. -/
theorem Mixed.adds (h : Mixed count whole part) (hle : count ≤ count') (hk : k < count')
    (own : part' k = part k ++ more) (others : ∀ i, i ≠ k → part' i = part i) :
    Mixed count' (whole ++ more) part' := by
  obtain ⟨owned, hw, ho, hp⟩ := h
  refine ⟨owned ++ more.map (k, ·), ?_, fun p hm => ?_, fun i => ?_⟩
  · rw [List.map_append, hw, List.map_map]
    simp [Function.comp_def]
  · rcases List.mem_append.mp hm with hm | hm
    · exact Nat.lt_of_lt_of_le (ho p hm) hle
    · obtain ⟨_, _, rfl⟩ := List.mem_map.mp hm
      exact hk
  · rw [List.filter_append, List.map_append, ← hp]
    by_cases hi : i = k
    · subst hi
      rw [own]
      simp [List.filter_map, Function.comp_def]
    · rw [others i hi]
      simp [List.filter_map, Function.comp_def, Ne.symm hi]

end Mixed

/-- A list is all that stands at its places. -/
theorem flatMap_range_getElem? {α : Type} (l : List α) :
    ((List.range l.length).flatMap fun i => l[i]?.toList) = l := by
  induction l using List.reverseRecOn with
  | nil => rfl
  | append_singleton l a ih =>
    have before : ((List.range l.length).flatMap fun i => (l ++ [a])[i]?.toList) = l := by
      refine Eq.trans (List.flatMap_congr fun i hi => ?_) ih
      rw [List.getElem?_append_left (List.mem_range.mp hi)]
    rw [List.length_append, List.length_singleton, List.range_succ, List.flatMap_append, before]
    simp

namespace Workload

variable {e : Engine} {w w' : Workload} {m : WorkloadMove} {moves : List WorkloadMove}
variable {i k : Nat} {views : Nat → Workload}

/-! ## Each request by itself -/

/-- Each request has come as far by itself, and what requests share is put together from what each
of them has left. -/
structure Separates (e : Engine) (moves : List WorkloadMove) (w : Workload)
    (views : Nat → Workload) : Prop where
  ran : ∀ i, (idle e).run (alone i moves) = some (views i)
  shows : ∀ i, Shows i w (views i)
  log : Mixed w.jobs.length w.log fun i => (views i).log
  faults : Mixed w.jobs.length w.faults fun i => (views i).faults
  handlerCalls : Mixed w.jobs.length w.handlerCalls fun i => (views i).handlerCalls
  /-- the faults that are kept for the caller are those of the requests themselves -/
  own : ∀ record, e.git.context.faults = .recorded record → ∀ i, (views i).faults = faultsAt i w

theorem Separates.step (ht : e.timeout = none) (reached : (idle e).run moves = some w)
    (h : Separates e moves w views) (hs : w.step m = some w') :
    ∃ views', Separates e (moves ++ [m]) w' views' := by
  have hle : w.jobs.length ≤ w'.jobs.length := by
    rw [length_of_step hs]
    exact Nat.le_add_right ..
  cases hm : m.owner? w.jobs.length with
  | none =>
    -- a move on tokens is made wherever a request is looked at by itself
    choose views' made shows adds adds_alone jobs using fun i => (h.shows i).shared hs hm
    refine ⟨views', fun i => ?_, shows, ?_, ?_, ?_, fun record hr i => ?_⟩
    · rw [alone_concat, length_arrivals reached, share_none hm, run_concat, h.ran i]
      exact made i
    · rw [(adds 0).log, List.append_nil]
      exact h.log.congr hle fun i => by rw [(adds_alone i).log, List.append_nil]
    · rw [(adds 0).faults, List.append_nil]
      exact h.faults.congr hle fun i => by rw [(adds_alone i).faults, List.append_nil]
    · rw [(adds 0).handlerCalls, List.append_nil]
      exact h.handlerCalls.congr hle fun i => by rw [(adds_alone i).handlerCalls, List.append_nil]
    · rw [(adds_alone i).faults, List.append_nil, h.own record hr i, faultsAt, faultsAt, jobs 0]
  | some k =>
    -- a move on one request is made where that one is by itself, and nowhere else
    have engine : w.engine = e := engine_of_run reached
    obtain ⟨v, n, like⟩ := (h.shows k).own (engine ▸ ht) (fun j => ownToken_eq_none ht reached) hs hm
    have here : Function.update views k v k = v := Function.update_self ..
    have there (i : Nat) (hi : i ≠ k) : Function.update views k v i = views i :=
      Function.update_of_ne hi ..
    have hk := owner_lt hs hm
    refine ⟨Function.update views k v, fun i => ?_, fun i => ?_, ?_, ?_, ?_, fun record hr i => ?_⟩
    · rw [alone_concat, length_arrivals reached]
      by_cases hi : i = k
      · subst hi
        rw [share_own hm, here, run_concat, h.ran i]
        exact like.made
      · rw [share_other hm (Ne.symm hi), List.append_nil, there i hi]
        exact h.ran i
    · by_cases hi : i = k
      · subst hi
        rw [here]
        exact like.shows
      · rw [there i hi]
        exact (h.shows i).rests hi like.touches
    · rw [like.adds.log]
      exact h.log.adds hle hk (by rw [here, like.adds_alone.log]) fun i hi => by rw [there i hi]
    · rw [like.adds.faults]
      exact h.faults.adds hle hk (by rw [here, like.adds_alone.faults])
        fun i hi => by rw [there i hi]
    · rw [like.adds.handlerCalls]
      exact h.handlerCalls.adds hle hk (by rw [here, like.adds_alone.handlerCalls])
        fun i hi => by rw [there i hi]
    · by_cases hi : i = k
      · subst hi
        rw [here, like.adds_alone.faults, h.own record hr, like.reported record (by rw [engine, hr])]
      · rw [there i hi, h.own record hr i, faultsAt, faultsAt, like.touches.others i hi]

theorem separates_of_run (ht : e.timeout = none) (ran : (idle e).run moves = some w) :
    ∃ views, Separates e moves w views := by
  refine run_induct (P := fun moves w => ∃ views, Separates e moves w views) ?_
    (fun reached ⟨_, h⟩ hs => h.step ht reached hs) ran
  refine ⟨fun _ => idle e, fun _ => rfl, fun _ => ⟨rfl, rfl, rfl⟩, ?_, ?_, ?_, fun _ _ _ => rfl⟩
  all_goals exact mixed_nil fun _ => rfl

/-! ## Counting each request by itself -/

theorem entries_arrivals (moves : List WorkloadMove) : entries (arrivals moves) = entries moves := by
  rw [entries, arrivals, List.filterMap_filter, entries]
  refine List.filterMap_congr fun m _ => ?_
  cases m <;> rfl

theorem entries_getElem? (i : Nat) (moves : List WorkloadMove) :
    entries ((arrivals moves)[i]?.toList) = (entries moves)[i]?.toList := by
  rw [← entries_arrivals moves]
  have came : ∀ m ∈ arrivals moves, m.isArrival := fun m hm => (List.mem_filter.mp hm).2
  generalize arrivals moves = list at came
  induction list generalizing i with
  | nil => rfl
  | cons m rest ih =>
    obtain ⟨entry, r, token, rfl⟩ : ∃ entry r token, m = .arrive entry r token := by
      have hm := came m List.mem_cons_self
      cases m <;> first | exact ⟨_, _, _, rfl⟩ | cases hm
    cases i with
    | zero => rfl
    | succ i => exact ih i fun m hm => came m (List.mem_cons_of_mem _ hm)

theorem entries_alone (i : Nat) (moves : List WorkloadMove) :
    entries (alone i moves) = (entries moves)[i]?.toList := by
  rw [← entries_arrivals, arrivals_alone, entries_getElem?]

theorem Separates.calls (h : Separates e moves w views) (i : Nat) :
    calls (alone i moves) (views i) = (calls moves w)[i]?.toList := by
  rw [Workload.calls, Workload.calls, entries_alone, (h.shows i).jobs, List.zip_eq_zipWith,
    List.zip_eq_zipWith, List.getElem?_zipWith, List.getElem?_map]
  cases (entries moves)[i]? <;> cases w.jobs[i]? <;> rfl

/-- The receipts of all calls are those of each by itself. -/
theorem Separates.receipts (h : Separates e moves w views)
    (ran : (idle e).run moves = some w) :
    receipts moves w =
      (List.range w.jobs.length).flatMap fun i => receipts (alone i moves) (views i) := by
  have length : (Workload.calls moves w).length = w.jobs.length := by
    rw [Workload.calls, List.length_zip, List.length_map, (agrees_of_run ran).1.length,
      Nat.min_self]
  rw [Workload.receipts, ← flatMap_range_getElem? (Workload.calls moves w), length,
    List.filterMap_flatMap]
  refine List.flatMap_congr fun i _ => ?_
  rw [Workload.receipts, h.calls]

/-! ## The law -/

/-- Every move of the work on a request is one that may be made, as told by the moves of that work
before it and by the request as it is then. So it is when its process goes by its command, its
environment and its input. -/
def KeepsTo (e : Engine) (i : Nat) (moves : List WorkloadMove)
    (may : List JobMove → Job → JobMove → Prop) : Prop :=
  ∀ before m after u j, moves = before ++ .work i m :: after → (idle e).run before = some u →
    u.jobs[i]? = some j → may (ownMoves i before) j m

/-- What may be done for a request may be done for it alone. -/
theorem keepsTo_alone {may : List JobMove → Job → JobMove → Prop} (ht : e.timeout = none)
    (ran : (idle e).run moves = some w) (h : KeepsTo e i moves may) :
    KeepsTo e 0 (alone i moves) may := by
  intro earlier m later u j hsplit hu hj
  obtain ⟨before, m₀, after, rfl, hbefore, hm⟩ := aloneFrom_split hsplit
  have hm₀ : m₀ = .work i m := by
    unfold share at hm
    split at hm
    · rename_i own
      cases m₀ <;> simp_all [WorkloadMove.owner?, WorkloadMove.alone]
    · cases hm
  subst hm₀
  rw [run_append] at ran
  obtain ⟨u₀, hu₀, _⟩ := Option.bind_eq_some_iff.mp ran
  obtain ⟨views, separate⟩ := separates_of_run ht hu₀
  have same : u = views i := by
    have here := separate.ran i
    rw [alone, hbefore, hu] at here
    exact Option.some.inj here
  have hj₀ : u₀.jobs[i]? = some j := by
    rw [same, (separate.shows i).jobs] at hj
    cases hu : u₀.jobs[i]? <;> simp_all
  rw [← hbefore, ← alone, ownMoves_alone]
  exact h before m after u₀ j rfl hu₀ hj₀

/-- How requests that an engine is at work on stand to each other, and to each by itself. -/
structure ApartLaw (e : Engine) (moves : List WorkloadMove) (w : Workload)
    (views : Nat → Workload) : Prop where
  /-- of each request there is a run in which no other comes in -/
  runs : ∀ i, (idle e).run (alone i moves) = some (views i)
  only : ∀ i, arrivals (alone i moves) = (arrivals moves)[i]?.toList
  /-- which ends with the same command, the same outcome and the same bytes in each sink, and with
  everything else that there is of the request, and of tokens, as it is -/
  same : ∀ i, (views i).jobs = w.jobs[i]?.toList ∧ (views i).tokens = w.tokens
  /-- in it the work makes the same moves, and what held of each of them holds of it again -/
  course : ∀ i, ownMoves 0 (alone i moves) = ownMoves i moves
  behaves : ∀ i may, KeepsTo e i moves may → KeepsTo e 0 (alone i moves) may
  /-- the faults that were kept are those of the requests, put together -/
  faults : Mixed w.jobs.length w.faults fun i => (views i).faults
  own : ∀ record, e.git.context.faults = .recorded record → ∀ i j, w.jobs[i]? = some j →
    (views i).faults = j.work.faults
  log : Mixed w.jobs.length w.log fun i => (views i).log
  handlerCalls : Mixed w.jobs.length w.handlerCalls fun i => (views i).handlerCalls
  /-- the counts are the sums of those of the requests -/
  counts : e.metrics → ∀ service outcome, w.metrics.invocationCount service outcome =
    ((List.range w.jobs.length).map fun i =>
      (views i).metrics.invocationCount service outcome).sum
  durations : e.metrics → ∀ service, w.metrics.durationCount service =
    ((List.range w.jobs.length).map fun i => (views i).metrics.durationCount service).sum
  /-- a move on one request changes neither the engine nor any other request -/
  frame : ∀ m w' k, w.step m = some w' → m.owner? w.jobs.length = some k → Touches k w w'

/-- Requests that an engine without a deadline is at work on do not interfere. -/
theorem requests_do_not_interfere (ht : e.timeout = none) (ran : (idle e).run moves = some w) :
    ∃ views, ApartLaw e moves w views := by
  obtain ⟨views, h⟩ := separates_of_run ht ran
  have engine : w.engine = e := engine_of_run ran
  have tallies (counted : e.metrics) :=
    (agrees_of_run ran).2.metrics (by rwa [engine])
  have tally (counted : e.metrics) (i : Nat) :=
    (agrees_of_run (h.ran i)).2.metrics (by rwa [engine_of_run (h.ran i)])
  refine ⟨views, h.ran, fun i => arrivals_alone i moves,
    fun i => ⟨(h.shows i).jobs, (h.shows i).tokens⟩, fun i => ownMoves_alone i moves,
    fun i may => keepsTo_alone ht ran, h.faults, ?_, h.log, h.handlerCalls, ?_, ?_, ?_⟩
  · intro record hr i j hj
    rw [h.own record hr, faultsAt_of_job hj]
  · intro counted service outcome
    rw [(tallies counted).counts, h.receipts ran, List.map_flatMap, List.count_flatMap]
    refine congrArg List.sum (List.map_congr_left fun i _ => ?_)
    rw [(tally counted i).counts]
    rfl
  · intro counted service
    rw [(tallies counted).durations, h.receipts ran, List.filterMap_flatMap, List.count_flatMap]
    refine congrArg List.sum (List.map_congr_left fun i _ => ?_)
    rw [(tally counted i).durations]
    rfl
  · intro m w' k hs hm
    obtain ⟨_, _, like⟩ :=
      (h.shows k).own (by rwa [engine]) (fun j => ownToken_eq_none ht ran) hs hm
    exact like.touches

/-- A server that keeps faults and counts, with git alone. -/
def sharedServer : Engine := .ofSettings .empty [.faults (.recorded 0), .metrics, .disableLfs]

/-- Two requests at the same time, of which one cannot be started and one is turned away. -/
def alternating : List WorkloadMove :=
  [.newToken, .arrive (.handle .uploadPack) { dir := "/srv/a.git" } 0,
    .arrive (.serve "git-lfs-transfer") { dir := "/srv/b.git" } 0, .work 0 (.call .enter),
    .finish 1, .work 0 (.call (.spawnFails .missing)), .finish 0]

/-- The first request is what it is, with or without the second. -/
theorem a_request_beside_another_is_the_same_alone :
    ∃ w views, (idle sharedServer).run alternating = some w ∧
      ApartLaw sharedServer alternating w views ∧
      alone 0 alternating =
        [.newToken, .arrive (.handle .uploadPack) { dir := "/srv/a.git" } 0,
          .work 0 (.call .enter), .work 0 (.call (.spawnFails .missing)), .finish 0] ∧
      ((views 0).jobs.map (·.outcome)) = [some (.error (Fault.ofStart .missing))] ∧
      w.metrics.invocationCount "git-lfs-transfer" "unsupported" = 1 ∧
      (views 0).metrics.invocationCount "git-lfs-transfer" "unsupported" = 0 := by
  have ran : (idle sharedServer).run alternating = some _ := rfl
  obtain ⟨views, law⟩ := requests_do_not_interfere rfl ran
  have jobs := (law.same 0).1
  have first : (idle sharedServer).run (alone 0 alternating) = some _ := rfl
  have view := Option.some.inj (first.symm.trans (law.runs 0))
  refine ⟨_, views, ran, law, rfl, ?_, by decide, ?_⟩
  · rw [← view]
    rfl
  · rw [← view]
    decide

end Workload

end GitSteward
