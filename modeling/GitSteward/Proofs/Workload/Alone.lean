-- One request of an engine at work, looked at by itself. Of the moves of a run there remain those
-- of callers on tokens, and those that concern the request. An engine without a deadline that is
-- asked for nothing else can make them too, and does with the request just what was done.
import GitSteward.Proofs.Workload.Effects
import GitSteward.Proofs.Workload.Tokens

namespace GitSteward

/-! ## The moves of one request -/

namespace WorkloadMove

/-- Whether a request comes in by a move. -/
def isArrival : WorkloadMove → Bool
  | .arrive .. => true
  | _ => false

/-- The request that a move is about, after so many have come in. -/
def owner? (count : Nat) : WorkloadMove → Option Nat
  | .arrive .. => some count
  | .work i _ | .finish i => some i
  | _ => none

/-- The same move when there is no other request. -/
def alone : WorkloadMove → WorkloadMove
  | .work _ m => .work 0 m
  | .finish _ => .finish 0
  | m => m

end WorkloadMove

/-- What remains of a move for one request. -/
def share (i count : Nat) (m : WorkloadMove) : List WorkloadMove :=
  if m.owner? count = none ∨ m.owner? count = some i then [m.alone] else []

def aloneFrom (i : Nat) : Nat → List WorkloadMove → List WorkloadMove
  | _, [] => []
  | count, m :: rest => share i count m ++ aloneFrom i (count + if m.isArrival then 1 else 0) rest

/-- The moves that remain for one request, in their order. -/
def alone (i : Nat) (moves : List WorkloadMove) : List WorkloadMove := aloneFrom i 0 moves

/-- The moves by which requests come in. -/
def arrivals (moves : List WorkloadMove) : List WorkloadMove := moves.filter (·.isArrival)

variable {i k count : Nat} {m : WorkloadMove} {moves more : List WorkloadMove}

theorem length_arrivals_cons (m : WorkloadMove) (rest : List WorkloadMove) :
    (arrivals (m :: rest)).length = (if m.isArrival then 1 else 0) + (arrivals rest).length := by
  by_cases hm : m.isArrival
  · simp [arrivals, hm, Nat.add_comm]
  · simp [arrivals, hm]

theorem aloneFrom_append (i count : Nat) (moves more : List WorkloadMove) :
    aloneFrom i count (moves ++ more) =
      aloneFrom i count moves ++ aloneFrom i (count + (arrivals moves).length) more := by
  induction moves generalizing count with
  | nil => rfl
  | cons m rest ih =>
    rw [List.cons_append, aloneFrom, ih, aloneFrom, List.append_assoc, length_arrivals_cons,
      Nat.add_assoc]

theorem alone_concat (i : Nat) (moves : List WorkloadMove) (m : WorkloadMove) :
    alone i (moves ++ [m]) = alone i moves ++ share i (arrivals moves).length m := by
  rw [alone, aloneFrom_append, Nat.zero_add, aloneFrom, aloneFrom, List.append_nil, alone]

theorem share_own (h : m.owner? count = some i) : share i count m = [m.alone] := if_pos (.inr h)

theorem share_other (h : m.owner? count = some k) (hk : k ≠ i) : share i count m = [] := by
  simp [share, h, hk]

theorem share_none (h : m.owner? count = none) : share i count m = [m] := by
  have same : m.alone = m := by cases m <;> first | rfl | cases h
  rw [share, if_pos (.inl h), same]

/-- The one request is all that comes in. -/
theorem arrivals_alone (i : Nat) (moves : List WorkloadMove) :
    arrivals (alone i moves) = (arrivals moves)[i]?.toList := by
  induction moves using List.reverseRecOn with
  | nil => rfl
  | append_singleton moves m ih =>
    have split (moves more : List WorkloadMove) :
        arrivals (moves ++ more) = arrivals moves ++ arrivals more := List.filter_append ..
    rw [alone_concat, split, split, ih]
    cases hm : m.isArrival with
    | true =>
      have own : m.owner? (arrivals moves).length = some (arrivals moves).length := by
        cases m <;> first | rfl | cases hm
      have here : arrivals [m] = [m] := by simp [arrivals, hm]
      rw [here]
      rcases Nat.lt_trichotomy i (arrivals moves).length with hi | rfl | hi
      · rw [share_other own (Nat.ne_of_gt hi), List.getElem?_append_left hi]
        simp [arrivals]
      · have same : m.alone = m := by cases m <;> first | rfl | cases hm
        rw [share_own own, same, here, List.getElem?_concat_length]
        simp
      · rw [share_other own (Nat.ne_of_lt hi), List.getElem?_eq_none (Nat.le_of_lt hi),
          List.getElem?_eq_none (by simp; omega)]
        rfl
    | false =>
      have none : arrivals [m] = [] := by simp [arrivals, hm]
      have nothing : arrivals (share i (arrivals moves).length m) = [] := by
        unfold share
        split
        · cases m <;> first | rfl | cases hm
        · rfl
      rw [none, nothing, List.append_nil, List.append_nil]

/-- The moves of the work on one request. -/
def ownMoves (i : Nat) (moves : List WorkloadMove) : List JobMove := moves.filterMap fun
  | .work k m => if k = i then some m else none
  | _ => none

/-- The work on a request makes the same moves by itself. -/
theorem ownMoves_alone (i : Nat) (moves : List WorkloadMove) :
    ownMoves 0 (alone i moves) = ownMoves i moves := by
  induction moves using List.reverseRecOn with
  | nil => rfl
  | append_singleton moves m ih =>
    have split (i : Nat) (moves more : List WorkloadMove) :
        ownMoves i (moves ++ more) = ownMoves i moves ++ ownMoves i more :=
      List.filterMap_append ..
    rw [alone_concat, split, split, ih]
    congr 1
    cases m with
    | work k m =>
      by_cases hk : k = i <;> simp [share, WorkloadMove.owner?, WorkloadMove.alone, ownMoves, hk]
    | finish k =>
      by_cases hk : k = i <;> simp [share, WorkloadMove.owner?, WorkloadMove.alone, ownMoves, hk]
    | arrive entry r token =>
      by_cases hk : (arrivals moves).length = i <;>
        simp [share, WorkloadMove.owner?, WorkloadMove.alone, ownMoves, hk]
    | newToken | childToken | deadlineToken | cancel | advance => rfl

/-- Each move that remains for a request was made after those that remain before it. -/
theorem aloneFrom_split {earlier later : List WorkloadMove}
    (h : aloneFrom i count moves = earlier ++ m :: later) :
    ∃ before m₀ after, moves = before ++ m₀ :: after ∧ aloneFrom i count before = earlier ∧
      share i (count + (arrivals before).length) m₀ = [m] := by
  induction moves generalizing count earlier with
  | nil => simp [aloneFrom] at h
  | cons first rest ih =>
    -- the move that is looked for was made after the first one
    have later_on {earlier' : List WorkloadMove} (hs : share i count first ++ earlier' = earlier)
        (h : aloneFrom i (count + if first.isArrival then 1 else 0) rest = earlier' ++ m :: later) :
        ∃ before m₀ after, first :: rest = before ++ m₀ :: after ∧
          aloneFrom i count before = earlier ∧
          share i (count + (arrivals before).length) m₀ = [m] := by
      obtain ⟨before, m₀, after, rfl, hb, hm⟩ := ih h
      refine ⟨first :: before, m₀, after, rfl, ?_, ?_⟩
      · rw [aloneFrom, hb, hs]
      · rw [length_arrivals_cons, ← Nat.add_assoc, hm]
    rw [aloneFrom] at h
    by_cases hf : first.owner? count = none ∨ first.owner? count = some i
    · have own : share i count first = [first.alone] := if_pos hf
      rw [own] at h
      cases earlier with
      | nil =>
        refine ⟨[], first, rest, rfl, rfl, ?_⟩
        rw [List.singleton_append, List.nil_append, List.cons.injEq] at h
        rw [← h.1]
        exact own
      | cons x earlier' =>
        rw [List.singleton_append, List.cons_append, List.cons.injEq] at h
        exact later_on (by rw [own, h.1]; rfl) h.2
    · have nothing : share i count first = [] := if_neg hf
      rw [nothing, List.nil_append] at h
      exact later_on (by rw [nothing, List.nil_append]) h

namespace Workload

variable {e : Engine} {w w' v : Workload} {j : Job} {entry : Entry} {r : Request} {token : Nat}

/-! ## Faults -/

theorem faults_workOf (r : Request) (b : Engine.Backend) : (workOf r b).faults = [] := by
  cases b <;> rfl

/-- The faults that a move has kept for the caller are those that the work has then besides. -/
theorem faults_of_work {before after : Work} {jm : JobMove} (h : before.step jm = some after)
    (j : Job) (record : Nat) :
    after.faults = before.faults ++ (Work.remarks (.recorded record) j before jm after).faults := by
  cases before with
  | process c =>
    cases jm with
    | call m =>
      simp only [Work.step] at h
      split at h
      · cases h
      · obtain ⟨c', hc, rfl⟩ := Option.map_eq_some_iff.mp h
        obtain ⟨more, hmore⟩ := Call.faults_of_step hc
        simp [Work.faults, Work.remarks, FaultSink.remarks, hmore]
    | handler => cases h
  | handler run =>
    cases jm with
    | call => cases h
    | handler e =>
      obtain ⟨run', _, rfl⟩ := Option.map_eq_some_iff.mp h
      rfl
  | refused => cases h

theorem faults_seeing (b : Bool) (work : Work) : (work.seeing b).faults = work.faults := by
  cases work <;> rfl

/-- The faults that have been reported of a request. -/
def faultsAt (i : Nat) (w : Workload) : List Fault := (w.jobs[i]?.map (·.work.faults)).getD []

theorem faultsAt_of_job (hj : w.jobs[i]? = some j) : faultsAt i w = j.work.faults := by
  rw [faultsAt, hj]
  rfl

theorem faultsAt_of_set (hj : w.jobs[i]? = some j) (j' : Job)
    (hw : w'.jobs = w.jobs.set i j') : faultsAt i w' = j'.work.faults := by
  refine faultsAt_of_job ?_
  rw [hw]
  exact List.getElem?_set_self (List.getElem?_eq_some_iff.mp hj).1

/-! ## What a move adds -/

/-- What requests share has become more, the metrics aside. -/
structure Adds (w w' : Workload) (n : Remarks) : Prop where
  engine : w'.engine = w.engine
  log : w'.log = w.log ++ n.log
  faults : w'.faults = w.faults ++ n.faults
  handlerCalls : w'.handlerCalls = w.handlerCalls ++ n.handlerCalls

/-- A state shows one request of another, with all tokens. -/
structure Shows (i : Nat) (w v : Workload) : Prop where
  engine : v.engine = w.engine
  tokens : v.tokens = w.tokens
  jobs : v.jobs = w.jobs[i]?.toList

/-- A move on a request leaves the engine, the tokens and all other requests as they are. -/
structure Touches (k : Nat) (w w' : Workload) : Prop where
  engine : w'.engine = w.engine
  tokens : w'.tokens = w.tokens
  others : ∀ i, i ≠ k → w'.jobs[i]? = w.jobs[i]?

/-- Without a deadline, what a request adds that comes in depends on engine and tokens alone. -/
theorem arrive_adds (ht : w.engine.timeout = none) (entry : Entry) (r : Request) (token : Nat) :
    ∃ j n, (j.work.faults = [] ∧ n.faults = []) ∧
      ∀ v : Workload, v.engine = w.engine → v.tokens = w.tokens →
        (v.arrive entry r token).jobs = v.jobs ++ [j] ∧ (v.arrive entry r token).tokens = v.tokens ∧
          Adds v (v.arrive entry r token) n := by
  have dispatched (s : Service) : ∃ j n, (j.work.faults = [] ∧ n.faults = []) ∧
      ∀ v : Workload, v.engine = w.engine → v.tokens = w.tokens →
        (v.handle s r token).jobs = v.jobs ++ [j] ∧ (v.handle s r token).tokens = v.tokens ∧
          Adds v (v.handle s r token) n := by
    refine ⟨w.dispatchedJob s r token, { log := [dispatchEvent s r] }, ⟨faults_workOf _ _, rfl⟩,
      fun v he hv => ?_⟩
    have same : v.dispatchedJob s r token = w.dispatchedJob s r token := by
      simp only [dispatchedJob, he, hv]
    have timeless : v.engine.timeout = none := by rw [he, ht]
    rw [handle_eq, same, timeless]
    exact ⟨rfl, rfl, ⟨rfl, rfl, by simp, by simp⟩⟩
  cases entry with
  | serve name =>
    cases hn : Service.ofWireName? name with
    | some s =>
      simp only [arrive, hn]
      exact dispatched s
    | none =>
      refine ⟨w.rejectedJob name token, { log := [rejectEvent name] }, ⟨rfl, rfl⟩,
        fun v he hv => ?_⟩
      have same : v.rejectedJob name token = w.rejectedJob name token := by
        simp only [rejectedJob, hv]
      simp only [arrive, hn, reject_eq, same]
      exact ⟨trivial, trivial, ⟨rfl, rfl, by simp, by simp⟩⟩
  | handle s => exact dispatched s
  | runGit s =>
    refine ⟨{
      service := some s, watched := false, token, startedAt := w.tokens.clock
      work := workOf r (w.engine.gitBackend s r) }, {}, ⟨faults_workOf _ _, rfl⟩,
      fun v he hv => ?_⟩
    refine ⟨?_, rfl, ⟨rfl, by simp [arrive, runGit, addJob], by simp [arrive, runGit, addJob],
      by simp [arrive, runGit, addJob]⟩⟩
    rw [← he, ← hv]
    rfl

/-- Where a request is shown, it can be replaced. -/
theorem Shows.set (h : Shows k w v) (hj : w.jobs[k]? = some j) (j' : Job) :
    v.jobs = [j] ∧ v.jobs.set 0 j' = (w.jobs.set k j')[k]?.toList ∧
      ∀ i, i ≠ k → (w.jobs.set k j')[i]? = w.jobs[i]? := by
  have hv : v.jobs = [j] := by
    rw [h.jobs, hj]
    rfl
  refine ⟨hv, ?_, fun i hi => List.getElem?_set_ne (Ne.symm hi)⟩
  rw [hv, List.getElem?_set_self (List.getElem?_eq_some_iff.mp hj).1]
  rfl

/-- What a move does for one request is the same where no other request is. -/
structure Likewise (k : Nat) (m : WorkloadMove) (w w' v v' : Workload) (n : Remarks) : Prop where
  made : v.step m.alone = some v'
  shows : Shows k w' v'
  adds : Adds w w' n
  adds_alone : Adds v v' n
  touches : Touches k w w'
  /-- the faults that are kept for the caller are all those of the request -/
  reported : ∀ record, w.engine.git.context.faults = .recorded record →
    faultsAt k w' = faultsAt k w ++ n.faults

theorem Shows.arrive (h : Shows w.jobs.length w v) (ht : w.engine.timeout = none) (entry : Entry)
    (r : Request) (token : Nat) : ∃ v' n,
      Likewise w.jobs.length (.arrive entry r token) w (w.arrive entry r token) v v' n := by
  obtain ⟨j, n, ⟨hwork, hn⟩, adds⟩ := arrive_adds ht entry r token
  obtain ⟨jobs, tokens, added⟩ := adds w rfl rfl
  obtain ⟨jobs', tokens', added'⟩ := adds v h.engine h.tokens
  refine ⟨v.arrive entry r token, n,
    ⟨rfl, ⟨?_, ?_, ?_⟩, added, added', ⟨added.engine, tokens, ?_⟩, fun _ _ => ?_⟩⟩
  · rw [added'.engine, h.engine, added.engine]
  · rw [tokens', h.tokens, tokens]
  · rw [jobs', h.jobs, jobs, List.getElem?_concat_length, List.getElem?_eq_none (Nat.le_refl _)]
    rfl
  · intro i hi
    rw [jobs]
    rcases Nat.lt_or_gt_of_ne hi with hlt | hgt
    · exact List.getElem?_append_left hlt
    · rw [List.getElem?_eq_none (by simp; omega), List.getElem?_eq_none (by omega)]
  · simp [faultsAt, jobs, hwork, hn]

theorem Shows.work {jm : JobMove} (h : Shows k w v) (hs : w.step (.work k jm) = some w') :
    ∃ v' n, Likewise k (.work k jm) w w' v v' n := by
  rw [work_eq] at hs
  obtain ⟨j, hj, hs⟩ := Option.bind_eq_some_iff.mp hs
  obtain ⟨work, hwork, rfl⟩ := Option.map_eq_some_iff.mp hs
  obtain ⟨hv, set, others⟩ := h.set hj { j with work }
  generalize hn : Work.remarks w.engine.git.context.faults j
    (j.work.seeing (w.tokens.isCancelled j.token)) jm work = n
  have made : v.step (.work 0 jm) =
      some (({ v with jobs := v.jobs.set 0 { j with work } } : Workload).adding n) := by
    rw [work_eq, hv, h.tokens, h.engine, List.getElem?_cons_zero, Option.bind_some, hwork,
      Option.map_some, hn]
  refine ⟨_, n, ⟨made, ⟨h.engine, h.tokens, set⟩, ⟨rfl, rfl, rfl, rfl⟩, ⟨rfl, rfl, rfl, rfl⟩,
    ⟨rfl, rfl, others⟩, fun record hr => ?_⟩⟩
  have more := faults_of_work hwork j record
  rw [faults_seeing, ← hr, hn] at more
  rw [faultsAt_of_job hj, ← more]
  exact faultsAt_of_set hj { j with work } rfl

theorem Shows.finish (h : Shows k w v) (own : ∀ j, w.jobs[k]? = some j → j.ownToken = none)
    (hs : w.step (.finish k) = some w') : ∃ v' n, Likewise k (.finish k) w w' v v' n := by
  rw [step, finish_eq] at hs
  obtain ⟨j, hj, hs⟩ := Option.bind_eq_some_iff.mp hs
  split at hs
  · cases hs
  · rename_i hout
    obtain ⟨outcome, ho, rfl⟩ := Option.map_eq_some_iff.mp hs
    obtain ⟨hv, set, others⟩ := h.set hj { j with outcome := some outcome }
    have held (u : Workload) : u.released j = u.tokens := by rw [released, own j hj]
    have made : v.step (.finish 0) = some (v.returning 0 j outcome) := by
      rw [step, finish_eq, hv, List.getElem?_cons_zero, Option.bind_some, if_neg hout, ho,
        Option.map_some]
    refine ⟨_, { log := endEvents j outcome }, ⟨made, ?_, ?_, ?_, ?_, fun _ _ => ?_⟩⟩
    all_goals rw [returning_eq]
    · rw [returning_eq v]
      refine ⟨h.engine, ?_, set⟩
      simp only [held, h.tokens]
    · exact ⟨rfl, rfl, by simp, by simp⟩
    · exact ⟨rfl, rfl, by simp, by simp⟩
    · exact ⟨rfl, held w, others⟩
    · rw [faultsAt_of_job hj, List.append_nil]
      exact faultsAt_of_set hj { j with outcome := some outcome } rfl

/-- A move on a request can be made where it is the only one, and does the same there. -/
theorem Shows.own (h : Shows k w v) (ht : w.engine.timeout = none)
    (own : ∀ j, w.jobs[k]? = some j → j.ownToken = none) (hs : w.step m = some w')
    (hm : m.owner? w.jobs.length = some k) : ∃ v' n, Likewise k m w w' v v' n := by
  cases m with
  | arrive entry r token =>
    cases hm
    cases hs
    exact h.arrive ht entry r token
  | work i jm =>
    cases hm
    exact h.work hs
  | finish i =>
    cases hm
    exact h.finish own hs
  | newToken | childToken | deadlineToken | cancel | advance => cases hm

/-- A move on tokens can be made wherever the tokens are the same. -/
theorem Shows.shared (h : Shows i w v) (hs : w.step m = some w')
    (hm : m.owner? w.jobs.length = none) :
    ∃ v', v.step m = some v' ∧ Shows i w' v' ∧ Adds w w' {} ∧ Adds v v' {} ∧
      w'.jobs = w.jobs := by
  cases m with
  | arrive | work | finish => cases hm
  | newToken | childToken | deadlineToken | cancel | advance =>
    cases hs
    refine ⟨_, rfl, ⟨h.engine, ?_, h.jobs⟩, ⟨rfl, ?_, ?_, ?_⟩, ⟨rfl, ?_, ?_, ?_⟩, rfl⟩ <;>
      simp [h.tokens]

/-- A move leaves everything of a request as it is that is not its own. -/
theorem Shows.rests (h : Shows i w v) (hi : i ≠ k) (t : Touches k w w') : Shows i w' v :=
  ⟨h.engine.trans t.engine.symm, h.tokens.trans t.tokens.symm, by rw [h.jobs, t.others i hi]⟩

/-! ## Runs -/

/-- Without a deadline no token is made for a request. -/
theorem ownToken_eq_none (ht : e.timeout = none) (ran : (idle e).run moves = some w)
    (hj : w.jobs[i]? = some j) : j.ownToken = none := by
  refine run_induct (P := fun _ w => ∀ i j, w.jobs[i]? = some j → j.ownToken = none)
    (fun _ _ h => by simp [idle] at h) ?_ ran i j hj
  intro moves v m v' ran ih hs i j hj
  cases comes_of_step hs hj with
  | rests hk _ same => exact same.trans (ih _ _ hk)
  | returns _ hk _ same => exact same.trans (ih _ _ hk)
  | arrives _ _ hown =>
    rw [hown, Entry.limit?, engine_of_run ran]
    cases Entry.dispatched? _ <;> simp [idle, ht]

/-- One request more is there when one comes in. -/
theorem length_of_step (hs : w.step m = some w') :
    w'.jobs.length = w.jobs.length + (arrivals [m]).length := by
  cases m with
  | arrive entry r token =>
    cases hs
    obtain ⟨j, taken⟩ := takenOn_arrive w entry r token
    rw [taken.jobs, List.length_append]
    rfl
  | work i jm =>
    rw [work_eq] at hs
    obtain ⟨j, _, hs⟩ := Option.bind_eq_some_iff.mp hs
    obtain ⟨work, _, rfl⟩ := Option.map_eq_some_iff.mp hs
    exact List.length_set
  | finish i =>
    rw [step, finish_eq] at hs
    obtain ⟨j, _, hs⟩ := Option.bind_eq_some_iff.mp hs
    split at hs
    · cases hs
    · obtain ⟨outcome, _, rfl⟩ := Option.map_eq_some_iff.mp hs
      rw [(sameWork_returning ..).jobs]
      exact List.length_set
  | newToken | childToken | deadlineToken | cancel | advance =>
    cases hs
    rfl

/-- Each request that came in is there. -/
theorem length_arrivals (ran : (idle e).run moves = some w) :
    (arrivals moves).length = w.jobs.length := by
  refine run_induct (P := fun moves w => (arrivals moves).length = w.jobs.length) rfl ?_ ran
  intro moves v m v' _ ih hs
  have split : arrivals (moves ++ [m]) = arrivals moves ++ arrivals [m] := List.filter_append ..
  rw [split, List.length_append, ih, length_of_step hs]

/-- The request that a move is about is there after the move. -/
theorem owner_lt (hs : w.step m = some w') (hm : m.owner? w.jobs.length = some k) :
    k < w'.jobs.length := by
  rw [length_of_step hs]
  cases m with
  | arrive =>
    cases hm
    exact Nat.lt_succ_self _
  | work i jm =>
    cases hm
    rw [work_eq] at hs
    obtain ⟨j, hj, _⟩ := Option.bind_eq_some_iff.mp hs
    exact (List.getElem?_eq_some_iff.mp hj).1
  | finish i =>
    cases hm
    rw [step, finish_eq] at hs
    obtain ⟨j, hj, _⟩ := Option.bind_eq_some_iff.mp hs
    exact (List.getElem?_eq_some_iff.mp hj).1
  | newToken | childToken | deadlineToken | cancel | advance => cases hm

end Workload

end GitSteward
