-- What an engine counts and tells of the calls to it. A call that is over has left one receipt: its
-- place among the counters, its service among the durations if it reached one, and one event of
-- the log. So counters, durations and log agree with what was returned, in whatever order calls
-- come and end.
import GitSteward.Proofs.Counting
import GitSteward.Proofs.Workload.Jobs

namespace GitSteward

/-! ## Lists in which one thing changes -/

section Lists

variable {α β : Type} {f : α → Option β} {a b : α}

theorem zip_set {l : List α} {os : List β} {i : Nat} {x : β} (h : l[i]? = some a) :
    l.zip (os.set i x) = (l.zip os).set i (a, x) := by
  induction l generalizing os i with
  | nil => simp at h
  | cons y l ih =>
    cases os with
    | nil => simp
    | cons o os =>
      cases i with
      | zero =>
        cases h
        rfl
      | succ i => simp only [List.set_cons_succ, List.zip_cons_cons, ih h]

theorem filterMap_set_same {l : List α} {i : Nat} (h : l[i]? = some a) (hf : f b = f a) :
    (l.set i b).filterMap f = l.filterMap f := by
  induction l generalizing i with
  | nil => simp at h
  | cons y l ih =>
    cases i with
    | zero =>
      cases h
      simp only [List.set_cons_zero, List.filterMap_cons, hf]
    | succ i => simp only [List.set_cons_succ, List.filterMap_cons, ih h]

theorem filterMap_set_perm {l : List α} {i : Nat} (h : l[i]? = some a) (hf : f a = none) :
    ((l.set i b).filterMap f).Perm (l.filterMap f ++ (f b).toList) := by
  induction l generalizing i with
  | nil => simp at h
  | cons y l ih =>
    cases i with
    | zero =>
      cases h
      cases hb : f b with
      | none => simp [hf, hb]
      | some z => simpa [hf, hb] using (List.perm_append_singleton z _).symm
    | succ i =>
      cases hy : f y with
      | none => simpa [hy] using ih h
      | some z => simpa [hy] using ih h

end Lists

/-! ## Calls and their receipts -/

/-- What a call leaves when it is over. -/
structure Receipt where
  /-- what it is counted as -/
  key : InvocationKey
  /-- the service that its duration is recorded for -/
  timed : Option String
  /-- what is told in the end -/
  event : LogEvent

namespace Receipt

/-- The receipt of a call for a service. -/
def ofEnd (s : Service) : Outcome → Receipt
  | .ok () =>
    { key := ⟨s.wireName, "ok"⟩
      timed := some s.wireName
      event :=
        { level := .info, origin := Workload.engineOrigin, message := "service completed"
          fields := [("service", s.wireName)], measured := ["elapsed_ms"] } }
  | .error f =>
    { key := ⟨s.wireName, f.label⟩
      timed := some s.wireName
      event :=
        { level := .warn, origin := Workload.engineOrigin, message := "service failed"
          fields := [("service", s.wireName), ("outcome", f.label), ("error", f.message)]
          measured := ["elapsed_ms"] } }

/-- The receipt of a call that named no service that there is. -/
def ofReject (name : String) : Receipt where
  key := ⟨"unknown", "unsupported"⟩
  timed := none
  event := Workload.rejectEvent name

end Receipt

/-- A call to an engine: how it came in, and the outcome that was returned to it, if it has been. -/
abbrev CallRecord := Entry × Option Outcome

namespace CallRecord

/-- Whether a call to serve a request is over. One that is turned away by its name is at once. -/
def isOver : CallRecord → Bool
  | (.serve name, outcome) => (Service.ofWireName? name).isNone || outcome.isSome
  | (.handle _, outcome) => outcome.isSome
  | (.runGit _, _) => false

/-- The receipt that a call has left. A call straight to git leaves none. -/
def receipt? : CallRecord → Option Receipt
  | (.serve name, outcome) =>
    match Service.ofWireName? name with
    | some s => outcome.map (Receipt.ofEnd s)
    | none => some (.ofReject name)
  | (.handle s, outcome) => outcome.map (Receipt.ofEnd s)
  | (.runGit _, _) => none

/-- A call has left its receipt when it is over. -/
theorem isSome_receipt? (c : CallRecord) : c.receipt?.isSome = c.isOver := by
  obtain ⟨entry, outcome⟩ := c
  cases entry with
  | serve name => cases hn : Service.ofWireName? name <;> simp [receipt?, isOver, hn]
  | handle s => simp [receipt?, isOver]
  | runGit s => rfl

theorem receipt?_dispatched {entry : Entry} {s : Service} (h : entry.dispatched? = some s)
    (outcome : Option Outcome) : receipt? (entry, outcome) = outcome.map (Receipt.ofEnd s) := by
  cases entry with
  | serve name =>
    have hn : Service.ofWireName? name = some s := h
    simp only [receipt?, hn]
  | handle => cases h; rfl
  | runGit => cases h

/-- The outcome of a call that is not dispatched makes no difference to its receipt. -/
theorem receipt?_aside {entry : Entry} (h : entry.dispatched? = none) (outcome : Option Outcome) :
    receipt? (entry, outcome) = receipt? (entry, none) := by
  cases entry with
  | serve name =>
    have hn : Service.ofWireName? name = none := h
    simp only [receipt?, hn]
  | handle => cases h
  | runGit => rfl

theorem receipt_cases {c : CallRecord} {receipt : Receipt} (h : c.receipt? = some receipt) :
    (∃ s outcome, receipt = .ofEnd s outcome) ∨ ∃ name, receipt = .ofReject name := by
  obtain ⟨entry, outcome⟩ := c
  have ends {s : Service} (h : outcome.map (Receipt.ofEnd s) = some receipt) :
      ∃ s outcome, receipt = .ofEnd s outcome := by
    obtain ⟨outcome, _, rfl⟩ := Option.map_eq_some_iff.mp h
    exact ⟨s, outcome, rfl⟩
  cases entry with
  | serve name =>
    cases hn : Service.ofWireName? name with
    | some s =>
      simp only [receipt?, hn] at h
      exact .inl (ends h)
    | none =>
      simp only [receipt?, hn, Option.some.injEq] at h
      exact .inr ⟨name, h.symm⟩
  | handle s => exact .inl (ends h)
  | runGit => cases h

end CallRecord

/-- How requests came in, in the order in which they did. -/
def entries (moves : List WorkloadMove) : List Entry := moves.filterMap fun
  | .arrive entry _ _ => some entry
  | _ => none

namespace Workload

variable {e : Engine} {w w' : Workload} {m : WorkloadMove} {moves : List WorkloadMove}
variable {i : Nat} {j : Job} {entry : Entry} {s : Service}

/-- All calls so far. -/
def calls (moves : List WorkloadMove) (w : Workload) : List CallRecord :=
  (entries moves).zip (w.jobs.map (·.outcome))

/-- The receipts of all calls that are over. -/
def receipts (moves : List WorkloadMove) (w : Workload) : List Receipt :=
  (calls moves w).filterMap CallRecord.receipt?

/-- The events with which calls end. -/
def isTerminal (ev : LogEvent) : Bool :=
  ev.origin = engineOrigin &&
    ["service completed", "service failed", "unsupported service requested"].contains ev.message

/-! ## What a move leaves -/

/-- A move leaves at most one receipt, in the metrics and in the log. -/
structure Leaves (w w' : Workload) (receipt : Option Receipt) : Prop where
  metrics : w.engine.metrics →
    w.metrics.Gains w'.metrics (receipt.map (·.key)) (receipt.bind (·.timed))
  log : w'.log.filter isTerminal = w.log.filter isTerminal ++ (receipt.map (·.event)).toList

theorem leaves_nothing (hm : w'.metrics = w.metrics)
    (hl : w'.log.filter isTerminal = w.log.filter isTerminal) : Leaves w w' none :=
  ⟨fun _ => by rw [hm]; exact .refl _, by simpa using hl⟩

theorem leaves_handle (w : Workload) (s : Service) (r : Request) (token : Nat) :
    Leaves w (w.handle s r token) none := by
  rw [handle_eq]
  refine leaves_nothing rfl ?_
  rw [List.filter_append]
  simp [dispatchEvent, isTerminal]

theorem leaves_reject (w : Workload) (name : String) (token : Nat) :
    Leaves w (w.reject name token) (some (.ofReject name)) := by
  rw [reject_eq]
  constructor
  · intro hm
    simp only [hm, if_true]
    exact Metrics.gains_observeRejected w.metrics (.unsupported name)
  · rw [List.filter_append]
    simp [Receipt.ofReject, rejectEvent, isTerminal]

theorem leaves_aside (h : Aside w w') : Leaves w w' none := by
  obtain ⟨told, hl, ho⟩ := h.log
  refine leaves_nothing h.metrics ?_
  have others : told.filter isTerminal = [] := by
    rw [List.filter_eq_nil_iff]
    intro ev hev
    simp [isTerminal, ho ev hev]
  rw [hl, List.filter_append, others, List.append_nil]

/-- The engine tells and counts the end of a call as its receipt says. -/
theorem leaves_observe (hw : j.watched) (hs : j.service = some s) (outcome : Outcome) :
    Leaves w (w.observe j outcome) (some (.ofEnd s outcome)) := by
  have label : (Receipt.ofEnd s outcome).key = ⟨s.wireName, outcome.label⟩ := by
    cases outcome <;> rfl
  have timed : (Receipt.ofEnd s outcome).timed = some s.wireName := by cases outcome <;> rfl
  have event : (Receipt.ofEnd s outcome).event = endEvent s outcome := by cases outcome <;> rfl
  have terminal : isTerminal (endEvent s outcome) := by cases outcome <;> rfl
  simp only [observe, hw, hs]
  constructor
  · intro hm
    have hm' : (w.write (endEvent s outcome)).engine.metrics = true := hm
    simp only [measure, hm', if_true, Option.map_some, Option.bind_some, label, timed]
    exact Metrics.gains_observe w.metrics s.wireName outcome _
  · have told : ((w.write (endEvent s outcome)).measure
        (·.observe s.wireName outcome (w.tokens.clock - j.startedAt))).log =
          w.log ++ [endEvent s outcome] := by
      unfold measure
      split <;> rfl
    rw [told, List.filter_append, Option.map_some, event]
    simp [terminal]

/-! ## Calls and jobs -/

theorem entries_concat (moves : List WorkloadMove) (m : WorkloadMove) :
    entries (moves ++ [m]) = entries moves ++ entries [m] :=
  List.filterMap_append

/-- A job is one of a request that came in some way. It is watched if the request is dispatched. -/
structure IsJobOf (entry : Entry) (j : Job) : Prop where
  watched : j.watched = entry.dispatched?.isSome
  service : ∀ s, entry.dispatched? = some s → j.service = some s

/-- Each request has its job. -/
structure Matches (moves : List WorkloadMove) (w : Workload) : Prop where
  length : (entries moves).length = w.jobs.length
  jobs : ∀ (i : Nat) (entry : Entry) (j : Job), (entries moves)[i]? = some entry →
    w.jobs[i]? = some j → IsJobOf entry j

/-- A request that comes in is one more call, which has not returned. -/
theorem Matches.arrive {j : Job} (h : Matches moves w) (r : Request) (token : Nat)
    (of : IsJobOf entry j) (hj : w'.jobs = w.jobs ++ [j]) (hn : j.outcome = none) :
    Matches (moves ++ [.arrive entry r token]) w' ∧
      calls (moves ++ [.arrive entry r token]) w' = calls moves w ++ [(entry, none)] := by
  have came : entries (moves ++ [.arrive entry r token]) = entries moves ++ [entry] :=
    entries_concat _ _
  refine ⟨⟨?_, fun i entry' j' he hj' => ?_⟩, ?_⟩
  · rw [came, hj, List.length_append, List.length_append, h.length]
    rfl
  · rw [came] at he
    rw [hj] at hj'
    rcases Nat.lt_or_ge i w.jobs.length with hi | hi
    · rw [List.getElem?_append_left (by rwa [h.length])] at he
      rw [List.getElem?_append_left hi] at hj'
      exact h.jobs i entry' j' he hj'
    · rw [List.getElem?_append_right (by rwa [h.length]), List.getElem?_singleton] at he
      rw [List.getElem?_append_right hi, List.getElem?_singleton] at hj'
      simp only [Option.ite_none_right_eq_some, Option.some.injEq] at he hj'
      obtain ⟨_, rfl⟩ := he
      obtain ⟨_, rfl⟩ := hj'
      exact of
  · rw [calls, came, hj, List.map_append, List.zip_append (by simpa using h.length)]
    simp [calls, hn]

/-- Work on a request and its return change one call at most. -/
theorem Matches.set {k : Nat} {j j' : Job} (h : Matches moves w) (hk : w.jobs[k]? = some j)
    (hm : entries [m] = []) (hj : w'.jobs = w.jobs.set k j') (hw : j'.watched = j.watched)
    (hs : j'.service = j.service) :
    Matches (moves ++ [m]) w' ∧ ∃ entry, IsJobOf entry j ∧
      (calls moves w)[k]? = some (entry, j.outcome) ∧
      calls (moves ++ [m]) w' = (calls moves w).set k (entry, j'.outcome) := by
  have came : entries (moves ++ [m]) = entries moves := by
    rw [entries_concat, hm, List.append_nil]
  obtain ⟨entry, he⟩ : ∃ entry, (entries moves)[k]? = some entry := by
    have hlt := (List.getElem?_eq_some_iff.mp hk).1
    exact ⟨_, List.getElem?_eq_getElem (by rwa [h.length])⟩
  have of := h.jobs k entry j he hk
  refine ⟨⟨?_, fun i entry' jk he' hjk => ?_⟩, entry, of, ?_, ?_⟩
  · rw [came, hj, List.length_set, h.length]
  · rw [came] at he'
    rw [hj] at hjk
    by_cases hki : k = i
    · subst hki
      rw [List.getElem?_set_self (List.getElem?_eq_some_iff.mp hk).1] at hjk
      cases hjk
      cases he.symm.trans he'
      exact ⟨hw.trans of.watched, fun s hd => hs.trans (of.service s hd)⟩
    · rw [List.getElem?_set_ne hki] at hjk
      exact h.jobs i entry' jk he' hjk
  · rw [calls, List.getElem?_zip_eq_some]
    exact ⟨he, by rw [List.getElem?_map, hk]; rfl⟩
  · rw [calls, came, hj, List.map_set, zip_set he]
    rfl

theorem Matches.rest (h : Matches moves w) (hm : entries [m] = []) (hj : w'.jobs = w.jobs) :
    Matches (moves ++ [m]) w' ∧ receipts (moves ++ [m]) w' = receipts moves w := by
  have came : entries (moves ++ [m]) = entries moves := by
    rw [entries_concat, hm, List.append_nil]
  refine ⟨⟨by rw [came, hj, h.length], ?_⟩, ?_⟩
  · rw [came, hj]
    exact h.jobs
  · rw [receipts, receipts, calls, calls, came, hj]

theorem observe_aside (h : j.watched = false) (outcome : Outcome) : w.observe j outcome = w := by
  simp [observe, h]

/-- A move leaves the receipt of the call that is over by it, if there is one. -/
theorem Matches.step (h : Matches moves w) (hs : w.step m = some w') :
    Matches (moves ++ [m]) w' ∧ ∃ receipt, Leaves w w' receipt ∧
      (receipts (moves ++ [m]) w').Perm (receipts moves w ++ receipt.toList) := by
  cases turn_of_step hs with
  | @dispatches entry r token s hd =>
    have of : IsJobOf entry (w.dispatchedJob s r token) :=
      ⟨by rw [hd]; rfl, fun s' hs' => hd.symm.trans hs'⟩
    obtain ⟨next, hc⟩ := h.arrive r token of
      (by rw [handle_eq] : (w.handle s r token).jobs = _) rfl
    refine ⟨next, none, leaves_handle w s r token, ?_⟩
    rw [receipts, hc, List.filterMap_append]
    simp [receipts, CallRecord.receipt?_dispatched hd]
  | @rejects name r token hn =>
    have hd : (Entry.serve name).dispatched? = none := hn
    have of : IsJobOf (.serve name) (w.rejectedJob name token) :=
      ⟨by rw [hd]; rfl, fun s' hs' => by simp [hd] at hs'⟩
    obtain ⟨next, hc⟩ := h.arrive r token of
      (by rw [reject_eq] : (w.reject name token).jobs = _) rfl
    refine ⟨next, some (.ofReject name), leaves_reject w name token, ?_⟩
    rw [receipts, hc, List.filterMap_append]
    simp [receipts, CallRecord.receipt?, hn]
  | @runsGit s r token =>
    have of (j : Job) (hw : j.watched = false) : IsJobOf (.runGit s) j :=
      ⟨hw, fun s' hs' => by cases hs'⟩
    obtain ⟨next, hc⟩ := h.arrive r token (of _ rfl) (rfl : (w.runGit s r token).jobs = _) rfl
    refine ⟨next, none, leaves_nothing rfl rfl, ?_⟩
    have nothing : [(Entry.runGit s, (none : Option Outcome))].filterMap CallRecord.receipt? = [] :=
      rfl
    rw [receipts, hc, List.filterMap_append, nothing]
    simp [receipts]
  | @works i jm j work _ hj _ aside =>
    obtain ⟨next, entry, of, hold, hc⟩ := h.set (m := .work i jm) hj rfl aside.jobs rfl rfl
    have leaves := leaves_aside aside
    refine ⟨next, none, ⟨leaves.metrics, leaves.log⟩, ?_⟩
    rw [receipts, hc, filterMap_set_same hold rfl]
    simp [receipts]
  | @finishes i j outcome hj hn ho =>
    obtain ⟨next, entry, of, hold, hc⟩ :=
      h.set (m := .finish i) hj rfl (sameWork_returning w i j outcome).jobs rfl rfl
    rw [hn] at hold
    refine ⟨next, ?_⟩
    rw [receipts, hc]
    cases hd : entry.dispatched? with
    | some s =>
      have watched : j.watched := by rw [of.watched, hd]; rfl
      have leaves := leaves_observe (w := { w with
        tokens := w.released j, jobs := w.jobs.set i { j with outcome := some outcome } })
        watched (of.service s hd) outcome
      refine ⟨some (.ofEnd s outcome), ⟨leaves.metrics, leaves.log⟩, ?_⟩
      have ends := filterMap_set_perm (b := (entry, some outcome)) hold
        (CallRecord.receipt?_dispatched hd none)
      rwa [CallRecord.receipt?_dispatched hd] at ends
    | none =>
      have watched : j.watched = false := by rw [of.watched, hd]; rfl
      refine ⟨none, ?_, ?_⟩
      · rw [returning, observe_aside watched]
        exact leaves_nothing rfl rfl
      · rw [filterMap_set_same hold (CallRecord.receipt?_aside hd _)]
        simp [receipts]
  | @tokens _ s ht =>
    have hm : entries [m] = [] := by cases m <;> first | rfl | cases ht
    obtain ⟨next, hc⟩ :=
      h.rest hm (rfl : ({ w with tokens := w.tokens.apply s } : Workload).jobs = _)
    refine ⟨next, none, leaves_nothing rfl rfl, ?_⟩
    rw [hc]
    simp

/-! ## The law -/

/-- Metrics and log show the receipts of all calls that are over. -/
structure Agrees (moves : List WorkloadMove) (w : Workload) : Prop where
  metrics : w.engine.metrics →
    w.metrics.Tallies ((receipts moves w).map (·.key)) ((receipts moves w).filterMap (·.timed))
  log : (w.log.filter isTerminal).Perm ((receipts moves w).map (·.event))

theorem Agrees.step {receipt : Option Receipt} (h : Agrees moves w) (he : w'.engine = w.engine)
    (left : Leaves w w' receipt)
    (hm : (receipts (moves ++ [m]) w').Perm (receipts moves w ++ receipt.toList)) :
    Agrees (moves ++ [m]) w' := by
  constructor
  · intro counted
    rw [he] at counted
    refine ((h.metrics counted).gains (left.metrics counted)).perm ?_ ?_
    · refine List.Perm.trans ?_ (hm.map _).symm
      cases receipt <;> simp
    · refine List.Perm.trans ?_ (hm.filterMap _).symm
      rw [List.filterMap_append]
      cases receipt with
      | none => simp
      | some receipt => cases ht : receipt.timed <;> simp [ht]
  · rw [left.log]
    refine ((h.log.append_right _).trans ?_).trans (hm.map _).symm
    cases receipt <;> simp

theorem agrees_of_run (ran : (idle e).run moves = some w) : Matches moves w ∧ Agrees moves w := by
  refine run_induct (P := fun moves w => Matches moves w ∧ Agrees moves w) ?_ ?_ ran
  · exact ⟨⟨rfl, by simp [entries]⟩, fun _ => Metrics.tallies_nil, .refl _⟩
  · intro moves v m v' _ ⟨hm, ha⟩ hs
    obtain ⟨next, receipt, left, perm⟩ := hm.step hs
    exact ⟨next, ha.step (goesOn_of_step hs).engine left perm⟩

/-- A move is one of a call straight to git. -/
def IsDirect (moves : List WorkloadMove) (m : WorkloadMove) : Prop :=
  (∃ s r token, m = .arrive (.runGit s) r token) ∨
    ∃ i s, m.concerns i ∧ (entries moves)[i]? = some (.runGit s)

/-- The counters of an engine, its durations and its log, after any calls in any order. -/
structure TallyLaw (e : Engine) (moves : List WorkloadMove) (w : Workload) : Prop where
  /-- every call so far -/
  everyone : (entries moves).length = w.jobs.length
  /-- each call that is over has added one to one counter, by its service and its outcome -/
  counts : ∀ service outcome, w.metrics.invocationCount service outcome =
    ((receipts moves w).map (·.key)).count ⟨service, outcome⟩
  /-- and one to the durations of its service, if it was dispatched -/
  durations : ∀ service,
    w.metrics.durationCount service = ((receipts moves w).filterMap (·.timed)).count service
  /-- and it has left one event in the log -/
  events : (w.log.filter isTerminal).Perm ((receipts moves w).map (·.event))
  /-- the counters sum to the number of calls that are over -/
  total : sumWhere (fun _ => true) w.metrics.invocations =
    (calls moves w).countP CallRecord.isOver
  /-- the counters of a service sum to the number of its durations -/
  byService : ∀ s : Service, sumWhere (fun k => k.service = s.wireName) w.metrics.invocations =
    w.metrics.durationCount s.wireName
  /-- the counts do not depend on the order in which calls came and ended -/
  order : ∀ moves' w', (idle e).run moves' = some w' → (calls moves w).Perm (calls moves' w') →
    (∀ service outcome,
      w.metrics.invocationCount service outcome = w'.metrics.invocationCount service outcome) ∧
    ∀ service, w.metrics.durationCount service = w'.metrics.durationCount service
  /-- calls straight to git are neither counted nor told of -/
  direct : ∀ m w', IsDirect moves m → w.step m = some w' →
    w'.metrics = w.metrics ∧ w'.log.filter isTerminal = w.log.filter isTerminal

theorem length_receipts (moves : List WorkloadMove) (w : Workload) :
    (receipts moves w).length = (calls moves w).countP CallRecord.isOver := by
  rw [receipts, List.length_filterMap_eq_countP]
  exact List.countP_congr fun c _ => by rw [CallRecord.isSome_receipt?]

/-- What is counted for a service is what its duration is recorded for. -/
theorem service_of_receipt {receipt : Receipt} (h : receipt ∈ receipts moves w) (s : Service) :
    receipt.key.service = s.wireName ↔ receipt.timed = some s.wireName := by
  have ends (s' : Service) (outcome : Outcome) :
      (Receipt.ofEnd s' outcome).timed = some (Receipt.ofEnd s' outcome).key.service := by
    cases outcome <;> rfl
  have unknown : "unknown" ≠ s.wireName := by cases s <;> decide
  obtain ⟨c, _, hc⟩ := List.mem_filterMap.mp h
  rcases CallRecord.receipt_cases hc with ⟨s', outcome, rfl⟩ | ⟨name, rfl⟩
  · rw [ends, Option.some.injEq]
  · exact iff_of_false unknown nofun

theorem byService_of_run (h : w.metrics.Tallies ((receipts moves w).map (·.key))
    ((receipts moves w).filterMap (·.timed))) (s : Service) :
    sumWhere (fun k => k.service = s.wireName) w.metrics.invocations =
      w.metrics.durationCount s.wireName := by
  rw [h.sums, h.durations, List.countP_map, List.count, List.countP_filterMap]
  refine List.countP_congr fun receipt hm => ?_
  have same := service_of_receipt hm s
  cases ht : receipt.timed <;> simp_all

theorem direct_of_step (h : Matches moves w) (hm : IsDirect moves m) (hs : w.step m = some w') :
    w'.metrics = w.metrics ∧ w'.log.filter isTerminal = w.log.filter isTerminal := by
  rcases hm with ⟨s, r, token, rfl⟩ | ⟨i, s, hc, hi⟩
  · cases hs
    exact ⟨rfl, rfl⟩
  · cases turn_of_step hs with
    | works _ _ aside => exact ⟨aside.metrics, by simpa using (leaves_aside aside).log⟩
    | @finishes k j outcome hj =>
      cases (by simpa [WorkloadMove.concerns] using hc : k = i)
      rw [returning, observe_aside (h.jobs i _ j hi hj).watched]
      exact ⟨rfl, rfl⟩
    | tokens => exact ⟨rfl, rfl⟩
    | dispatches | rejects | runsGit => cases hc

/-- Counters, durations and log agree with the outcomes that were returned. -/
theorem every_call_is_counted_once (counted : e.metrics) (ran : (idle e).run moves = some w) :
    TallyLaw e moves w := by
  obtain ⟨hm, agrees⟩ := agrees_of_run ran
  have tallies := agrees.metrics (by rwa [engine_of_run ran])
  refine ⟨hm.length, tallies.counts, tallies.durations, agrees.log, ?_, byService_of_run tallies,
    ?_, fun m w' hd hs => direct_of_step hm hd hs⟩
  · rw [tallies.sums, List.countP_map, ← length_receipts]
    exact List.countP_eq_length.mpr fun _ _ => rfl
  · intro moves' w' ran' same
    have tallies' := (agrees_of_run ran').2.metrics (by rwa [engine_of_run ran'])
    have perm : (receipts moves w).Perm (receipts moves' w') := same.filterMap _
    have alike := tallies.perm (perm.map _) (perm.filterMap _)
    exact ⟨fun s o => by rw [alike.counts, tallies'.counts],
      fun s => by rw [alike.durations, tallies'.durations]⟩

/-- A server that counts and does not serve large files. -/
def countingServer : Engine := .ofSettings .empty [.metrics, .disableLfs]

/-- A call by a name that there is not, one for a service that is disabled, and one to git. -/
def severalCalls : List WorkloadMove :=
  [.newToken, .arrive (.serve "git-nope") { dir := "/srv/a.git" } 0,
    .arrive (.handle .lfsTransfer) { dir := "/srv/a.git" } 0,
    .arrive (.runGit .lfsTransfer) { dir := "/srv/a.git" } 0, .finish 2, .finish 1]

theorem what_is_turned_away_is_counted_apart :
    ∃ w, (idle countingServer).run severalCalls = some w ∧
      TallyLaw countingServer severalCalls w ∧
      w.metrics.invocationCount "unknown" "unsupported" = 1 ∧
      w.metrics.invocationCount "git-lfs-transfer" "unsupported" = 1 ∧
      w.metrics.durationCount "git-lfs-transfer" = 1 ∧
      (w.log.filter isTerminal).length = 2 := by
  have ran : (idle countingServer).run severalCalls = some _ := rfl
  exact ⟨_, ran, every_call_is_counted_once rfl ran, by decide, by decide, by decide, by decide⟩

end Workload

end GitSteward
