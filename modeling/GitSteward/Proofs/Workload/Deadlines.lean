-- The deadline of an engine concerns one request at a time. What becomes of a request depends on
-- its caller and its own time, whatever other requests there are, and what becomes of the tokens of
-- callers depends on callers alone.
import GitSteward.Proofs.Call.Cancelling
import GitSteward.Proofs.Workload.Timers

namespace GitSteward

open Tokens

/-! ## Time -/

/-- How long a move takes. -/
def WorkloadMove.span : WorkloadMove → Nat
  | .advance span => span
  | _ => 0

/-- How much time passes with moves. -/
def timeTaken (moves : List WorkloadMove) : Nat := (moves.map WorkloadMove.span).sum

/-- With these moves time has come to a limit. -/
def Elapsed (limit : Nat) (moves : List WorkloadMove) : Prop :=
  (∃ span, .advance span ∈ moves) ∧ limit ≤ timeTaken moves

theorem timeTaken_concat (moves : List WorkloadMove) (m : WorkloadMove) :
    timeTaken (moves ++ [m]) = timeTaken moves + m.span := by
  simp [timeTaken]

theorem elapsed_concat {limit : Nat} {moves : List WorkloadMove} {m : WorkloadMove} :
    Elapsed limit (moves ++ [m]) ↔ Elapsed limit moves ∨
      ∃ span, m = .advance span ∧ limit ≤ timeTaken moves + span := by
  rw [Elapsed, timeTaken_concat]
  cases m with
  | advance span =>
    constructor
    · exact fun h => .inr ⟨span, rfl, h.2⟩
    · rintro (⟨_, h⟩ | ⟨_, ⟨⟩, h⟩)
      · exact ⟨⟨span, by simp⟩, Nat.le_add_right_of_le h⟩
      · exact ⟨⟨span, by simp⟩, h⟩
  | arrive | work | finish | newToken | childToken | deadlineToken | cancel =>
    simp [Elapsed, WorkloadMove.span]

namespace Call

variable {c c' : Call} {m : Move}

/-- A call that has returned decides nothing any more. -/
theorem unreturned_of_decides (hs : c.step m = some c') (hd : c.Decides m c') :
    c.outcome? = none := by
  rcases hd with rfl | ⟨ha, _⟩
  · simp only [step] at hs
    unfold outcome?
    cases hp : c.phase <;> simp_all
  · unfold outcome?
    rcases isAwaiting_iff.mp ha with hp | hp <;> simp [hp]

/-- A call that is found cancelled in a move was cancelled before it and had not returned. -/
theorem Orderly.decides {found : Prop} (ho : c.Orderly) (hd : c.Decided found)
    (hs : c.step m = some c') :
    ∃ found', c'.Decided found' ∧ (found' → found ∨ (c.cancelled ∧ c.outcome? = none)) := by
  refine ⟨found ∨ (c.Decides m c' ∧ c.cancelled), ?_, ?_⟩
  · rcases ho.turn hs with t | ⟨hm, same⟩
    · exact t.decided hd
    · exact hd.same same.phase (by rintro rfl; cases hm)
  · rintro (hf | ⟨hdec, hx⟩)
    · exact .inl hf
    · exact .inr ⟨hx, unreturned_of_decides hs hdec⟩

end Call

namespace Workload

variable {e : Engine} {w w' v : Workload} {m : WorkloadMove} {moves started : List WorkloadMove}
variable {i a own token limit : Nat} {j j' : Job} {entry : Entry} {r : Request}
variable {start c : Call}

theorem clock_of_step (h : w.step m = some w') : w'.tokens.clock = w.tokens.clock + m.span := by
  rw [tokens_of_step h]
  cases m with
  | arrive entry r token =>
    rw [tokenStep?]
    cases entry.limit? w.engine <;> rfl
  | finish i =>
    rw [tokenStep?]
    cases w.jobs[i]?.bind (·.ownToken) <;> rfl
  | work | newToken | childToken | deadlineToken | cancel | advance => rfl

theorem clock_of_run (ran : w.run moves = some w') :
    w'.tokens.clock = w.tokens.clock + timeTaken moves := by
  refine run_induct (P := fun moves v => v.tokens.clock = w.tokens.clock + timeTaken moves)
    rfl ?_ ran
  intro moves v m v' _ h hs
  rw [clock_of_step hs, h, timeTaken_concat, Nat.add_assoc]

/-! ## The token of a request -/

/-- The deadline of a token comes when its time has passed since it was made. -/
theorem cameDue_iff (reached : (idle e).run started = some w) (new : ¬ CameDue e started own)
    (hd : due? w.tokens.nodes own = some (w.tokens.clock + limit)) (ran : w.run moves = some w') :
    CameDue e (started ++ moves) own ↔ Elapsed limit moves := by
  refine run_induct (P := fun moves _ => CameDue e (started ++ moves) own ↔ Elapsed limit moves)
    ?_ ?_ ran
  · rw [List.append_nil]
    exact iff_of_false new nofun
  · intro moves v m v' ran h hs
    have whole : (idle e).run (started ++ moves) = some v := by rw [run_append, reached]; exact ran
    have due : due? v.tokens.nodes own = some (w.tokens.clock + limit) := by
      rw [(extends_of_run ran).due? (lt_of_due? hd), hd]
    rw [← List.append_assoc, CameDue, befell_concat whole, elapsed_concat, ← h, CameDue]
    simp only [IsDue, due, clock_of_run ran, Option.some.injEq, exists_eq_left', Nat.add_assoc,
      Nat.add_le_add_iff_left]

theorem cancel_of_callerCancelled (h : CallerCancelled e (started ++ moves) a) :
    CallerCancelled e started a ∨ .cancel a ∈ moves := by
  obtain ⟨before, m, after, hm, v, ran, rfl, hlt⟩ := h
  rcases List.append_eq_append_iff.mp hm with ⟨rest, rfl, rfl⟩ | ⟨rest, rfl, hrest⟩
  · exact .inr (by simp)
  · cases rest with
    | nil =>
      rw [List.nil_append] at hrest
      exact .inr (hrest ▸ List.mem_cons_self)
    | cons m rest =>
      obtain ⟨rfl, rfl⟩ := List.cons.inj hrest
      exact .inl ⟨before, _, rest, rfl, v, ran, rfl, hlt⟩

/-- A token has just been made for a request, under that of the caller. -/
structure OwnTimer (e : Engine) (started : List WorkloadMove) (w : Workload)
    (own token limit : Nat) : Prop where
  reached : (idle e).run started = some w
  parent : parent? w.tokens.nodes own = some token
  due : due? w.tokens.nodes own = some (w.tokens.clock + limit)
  uncancelled : ¬ CallerCancelled e started own
  notDue : ¬ CameDue e started own

theorem step_arrive (w : Workload) (entry : Entry) (r : Request) (token : Nat) :
    w.step (.arrive entry r token) = some (w.arrive entry r token) := rfl

theorem ownTimer_of_arrive (reached : (idle e).run started = some w)
    (held : token < w.tokens.nodes.length) (hl : entry.limit? w.engine = some limit) :
    OwnTimer e (started ++ [.arrive entry r token]) (w.arrive entry r token)
      w.tokens.nodes.length token limit := by
  have tokens : (w.arrive entry r token).tokens = w.tokens.apply (.deadline token limit) := by
    rw [tokens_of_step (step_arrive w entry r token), tokenStep?, hl]
    rfl
  -- whatever was the cause of a cancellation before this was there before this
  have old {a : Nat} (ha : CallerCancelled e started a ∨ CameDue e started a) :
      a < w.tokens.nodes.length :=
    (cancelledBy_of_run reached).lt (ha.elim .inl fun h => .inr (.inl h))
  refine ⟨?_, ?_, ?_, ?_, ?_⟩
  · rw [run_concat, reached]
    rfl
  · rw [tokens]
    exact (parent?_apply _ _).mpr (.inr ⟨rfl, rfl, held⟩)
  · rw [tokens]
    exact (due?_apply _ _).mpr (.inr ⟨rfl, token, limit, rfl, rfl⟩)
  · rw [CallerCancelled, befell_concat reached]
    rintro (h | ⟨⟨⟩, _⟩)
    exact Nat.lt_irrefl _ (old (.inl h))
  · rw [CameDue, befell_concat reached]
    rintro (h | ⟨_, ⟨⟩, _⟩)
    exact Nat.lt_irrefl _ (old (.inr h))

theorem released_iff (h : w.OwnTokens) (hj : w.jobs[i]? = some j) (ho : j.ownToken = some own) :
    Released w own ↔ j.outcome.isSome := by
  constructor
  · rintro ⟨i', j', hj', ho', hout⟩
    cases h.apart hj hj' ho ho'
    cases hj.symm.trans hj'
    exact hout
  · exact fun hout => ⟨i, j, hj, ho, hout⟩

/-- The token of a request is cancelled just when that of the caller is, or the time is up, or the
request has been returned, if nobody but the engine cancels it. -/
theorem OwnTimer.seen (h : OwnTimer e started w own token limit) (ran : w.run moves = some w')
    (hj : w'.jobs[i]? = some j) (ho : j.ownToken = some own) (alone : .cancel own ∉ moves) :
    w'.tokens.isCancelled own ↔
      w'.tokens.isCancelled token ∨ Elapsed limit moves ∨ j.outcome.isSome := by
  have whole : (idle e).run (started ++ moves) = some w' := by rw [run_append, h.reached]; exact ran
  have causes := cancelledBy_of_run whole
  have parent : parent? w'.tokens.nodes own = some token := by
    rw [(extends_of_run ran).parent? (lt_length_of_parent? h.parent), h.parent]
  have callers : ¬ CallerCancelled e (started ++ moves) own :=
    fun hc => (cancel_of_callerCancelled hc).elim h.uncancelled alone
  rw [← released_iff (ownTokens_of_run whole) hj ho, ← cameDue_iff h.reached h.notDue h.due ran]
  constructor
  · intro hx
    obtain ⟨a, hr, ha⟩ := (causes own).mp hx
    rcases reaches_iff.mp hr with rfl | ⟨p, hp, hr⟩
    · exact .inr (ha.resolve_left callers)
    · cases parent.symm.trans hp
      exact .inl ((causes token).mpr ⟨a, hr, ha⟩)
  · rintro (hx | ha)
    · exact causes.settled (.child parent .self) hx
    · exact (causes own).mpr ⟨own, .self, .inr ha⟩

/-! ## From when a request comes in -/

/-- The token that the engine makes for a request, if it makes one. -/
def ownTokenOf (w : Workload) (entry : Entry) : Option Nat :=
  (entry.limit? w.engine).map fun _ => w.tokens.nodes.length

/-- A request with its tokens. -/
structure Holds (w : Workload) (i : Nat) (token : Nat) (made : Option Nat) (j : Job) : Prop where
  job : w.jobs[i]? = some j
  own : j.ownToken = made
  token : j.token = made.getD token

theorem holds_of_arrive (w : Workload) (entry : Entry) (r : Request) (token : Nat) :
    ∃ j, Holds (w.arrive entry r token) w.jobs.length token (w.ownTokenOf entry) j ∧
      j.outcome = none := by
  obtain ⟨j, taken⟩ := takenOn_arrive w entry r token
  have hj : (w.arrive entry r token).jobs[w.jobs.length]? = some j := by
    rw [taken.jobs, List.getElem?_concat_length]
  cases comes_of_step (step_arrive w entry r token) hj with
  | rests hk => simp at hk
  | returns hm => cases hm
  | arrives hm _ ho ht hn =>
    cases hm
    exact ⟨j, ⟨hj, ho, by rw [ht, ho]; rfl⟩, hn⟩

theorem Holds.run {made : Option Nat} (h : Holds w i token made j) (ran : w.run moves = some w') :
    ∃ j', Holds w' i token made j' := by
  refine run_induct (P := fun _ v => ∃ j', Holds v i token made j') ⟨j, h⟩ ?_ ran
  rintro _ v m v' _ ⟨j, h⟩ hs
  obtain ⟨j', hj', ht, ho, _⟩ := stays_of_step hs h.job
  exact ⟨j', hj', ho.trans h.own, ht.trans h.token⟩

/-- Nobody but the engine cancels the token that it makes for a request. -/
def LeftAlone (w : Workload) (entry : Entry) (moves : List WorkloadMove) : Prop :=
  ∀ own, w.ownTokenOf entry = some own → .cancel own ∉ moves

/-- A request is cut off: the token of its caller is cancelled, or its time is up. -/
def CutOff (w : Workload) (entry : Entry) (token : Nat) (moves : List WorkloadMove)
    (w' : Workload) : Prop :=
  w'.tokens.isCancelled token ∨ ∃ limit, entry.limit? w.engine = some limit ∧ Elapsed limit moves

/-- The token that work on a request looks at is cancelled only for the sake of that request. -/
theorem cutOff_of_cancelled (reached : (idle e).run started = some w)
    (held : token < w.tokens.nodes.length) (alone : LeftAlone w entry moves)
    (ran : (w.arrive entry r token).run moves = some w')
    (h : Holds w' w.jobs.length token (w.ownTokenOf entry) j) (hn : j.outcome = none)
    (hx : w'.tokens.isCancelled j.token) : CutOff w entry token moves w' := by
  cases hl : entry.limit? w.engine with
  | none =>
    have shared : j.token = token := by rw [h.token, ownTokenOf, hl]; rfl
    exact .inl (shared ▸ hx)
  | some limit =>
    have made : w.ownTokenOf entry = some w.tokens.nodes.length := by rw [ownTokenOf, hl]; rfl
    have own : j.token = w.tokens.nodes.length := by rw [h.token, made]; rfl
    have seen := (ownTimer_of_arrive (r := r) reached held hl).seen ran h.job (h.own.trans made)
      (alone _ made)
    rw [own, seen, hn] at hx
    rcases hx with hx | hx | hx
    · exact .inl hx
    · exact .inr ⟨limit, hl, hx⟩
    · cases hx

theorem CutOff.step (h : CutOff v entry token moves w) (hs : w.step m = some w') :
    CutOff v entry token (moves ++ [m]) w' := by
  rcases h with hx | ⟨limit, hl, hx⟩
  · exact .inl ((goesOn_of_step hs).tokens _ hx)
  · exact .inr ⟨limit, hl, elapsed_concat.mpr (.inl hx)⟩

/-! ## Processes that are found cancelled -/

/-- When a call decides that it is cancelled, its token is, and it has not been returned. -/
theorem Follows.decides {found : Prop} (fresh : start.IsFresh) (h : Follows start w i j c)
    (hd : c.Decided found) (hs : w.step m = some w') :
    ∃ j' c' found', Follows start w' i j' c' ∧ c'.Decided found' ∧
      (found' → found ∨ (w.tokens.isCancelled j.token ∧ j.outcome = none)) := by
  obtain ⟨j', c', h', _, turn⟩ := h.step fresh hs
  cases turn with
  | rests same => exact ⟨j', c', found, h', same ▸ hd, .inl⟩
  | moves own _ hc =>
    obtain ⟨ms, ran⟩ := h.course
    obtain ⟨ms, ran⟩ := Call.run_seeing ran h.cancelled
    obtain ⟨found', hd', cause⟩ := (fresh.orderly ran).decides hd hc
    refine ⟨j', c', found', h', hd', fun hf => (cause hf).imp id fun ⟨hx, hn⟩ => ⟨hx, ?_⟩⟩
    have hn : c.outcome? = none := hn
    cases ho : j.outcome with
    | none => rfl
    | some outcome => simp [h.outcome outcome ho] at hn

/-- The process of a request decides that it is cancelled only when the request is cut off. -/
theorem decided_of_run {runner : Runner} {launch : Launch}
    (hb : entry.backend w.engine r = .process runner launch)
    (reached : (idle e).run started = some w) (held : token < w.tokens.nodes.length)
    (alone : LeftAlone w entry moves) (ran : (w.arrive entry r token).run moves = some w') :
    ∃ j c found, Follows (callOf r runner launch) w' w.jobs.length j c ∧ c.Decided found ∧
      (found → CutOff w entry token moves w') := by
  obtain ⟨j₀, h₀, _⟩ := follows_of_arrive token hb
  refine run_induct (P := fun moves v => LeftAlone w entry moves →
    ∃ j c found, Follows (callOf r runner launch) v w.jobs.length j c ∧ c.Decided found ∧
      (found → CutOff w entry token moves v)) ?_ ?_ ran alone
  · exact fun _ => ⟨j₀, _, False, h₀, id, False.elim⟩
  · intro moves v m v' ran ih hs alone
    have alone : LeftAlone w entry moves :=
      fun own ho hm => alone own ho (List.mem_append_left _ hm)
    obtain ⟨j, c, found, h, hd, cut⟩ := ih alone
    obtain ⟨j', c', found', h', hd', causes⟩ := h.decides isFresh_callOf hd hs
    refine ⟨j', c', found', h', hd', fun hf => ?_⟩
    refine CutOff.step ?_ hs
    rcases causes hf with hf | ⟨hx, hn⟩
    · exact cut hf
    · obtain ⟨j₁, arrived, _⟩ := holds_of_arrive w entry r token
      obtain ⟨j₂, holds⟩ := arrived.run ran
      cases h.job.symm.trans holds.job
      exact cutOff_of_cancelled reached held alone ran holds hn hx

/-- The process of a request is found cancelled only when the request is cut off. -/
theorem cutOff_of_stopped {runner : Runner} {launch : Launch}
    (hb : entry.backend w.engine r = .process runner launch)
    (reached : (idle e).run started = some w) (held : token < w.tokens.nodes.length)
    (alone : LeftAlone w entry moves) (ran : (w.arrive entry r token).run moves = some w') :
    ∃ j c, Holds w' w.jobs.length token (w.ownTokenOf entry) j ∧ j.work = .process c ∧
      (c.outcome? = some (.error .cancelled) → CutOff w entry token moves w') := by
  obtain ⟨j, c, found, h, hd, cut⟩ := decided_of_run hb reached held alone ran
  obtain ⟨j₁, arrived, _⟩ := holds_of_arrive w entry r token
  obtain ⟨j₂, holds⟩ := arrived.run ran
  cases h.job.symm.trans holds.job
  refine ⟨j, c, holds, h.work, fun ho => cut ?_⟩
  have hp := Call.phase_of_outcome ho
  unfold Call.Decided at hd
  rw [hp] at hd
  exact hd.mp rfl

/-- An outcome is returned by a move of its own, when the work on the request has come to it. -/
theorem returned_of_run {outcome : Outcome} (hj : w.jobs[i]? = some j) (hn : j.outcome = none)
    (ran : w.run moves = some w') (hj' : w'.jobs[i]? = some j') (ho : j'.outcome = some outcome) :
    Happened moves fun before m => m = .finish i ∧ ∃ v jv, w.run before = some v ∧
      v.jobs[i]? = some jv ∧ jv.outcome = none ∧ jv.work.outcome? = some outcome := by
  refine run_induct (P := fun moves v => ∀ jv, v.jobs[i]? = some jv → jv.outcome = some outcome →
    Happened moves fun before m => m = .finish i ∧ ∃ v jv, w.run before = some v ∧
      v.jobs[i]? = some jv ∧ jv.outcome = none ∧ jv.work.outcome? = some outcome)
    ?_ ?_ ran j' hj' ho
  · intro jv hjv ho
    cases hj.symm.trans hjv
    simp [hn] at ho
  · intro moves v m v' ran ih hs jv hjv ho
    rw [happened_concat]
    cases comes_of_step hs hjv with
    | rests hk _ _ same => exact .inl (ih _ hk (same ▸ ho))
    | returns hm hk _ _ hn _ same => exact .inr ⟨hm, v, _, ran, hk, hn, same ▸ ho⟩
    | arrives _ _ _ _ hn => simp [hn] at ho

/-! ## The law -/

/-- A token was made for a request. -/
def IsOwnToken (w : Workload) (a : Nat) : Prop :=
  ∃ (i : Nat) (j : Job), w.jobs[i]? = some j ∧ j.ownToken = some a

/-- A token is of callers that does not descend from one that was made for a request. -/
def OfCallers (w : Workload) (i : Nat) : Prop :=
  ∀ own, w.IsOwnToken own → ¬ Reaches w.tokens.nodes own i

/-- A request from when it came in, as far as its deadline is concerned. -/
structure OnItsOwn (w : Workload) (entry : Entry) (r : Request) (token : Nat)
    (moves : List WorkloadMove) (w' : Workload) (j : Job) : Prop where
  job : w'.jobs[w.jobs.length]? = some j
  /-- without a limit the work looks at the token of the caller -/
  shared : entry.limit? w.engine = none → j.token = token
  /-- with a limit it looks at a token of its own, which is cancelled just when that of the caller
  is, or the time is up, or the request has been returned -/
  seen : ∀ limit, entry.limit? w.engine = some limit →
    w.ownTokenOf entry = some j.token ∧ (LeftAlone w entry moves →
      (w'.tokens.isCancelled j.token ↔
        w'.tokens.isCancelled token ∨ Elapsed limit moves ∨ j.outcome.isSome))
  /-- when the request has been returned, its deadline makes no difference to what follows -/
  spent : ∀ own, w.ownTokenOf entry = some own → j.outcome.isSome →
    ∀ more, (w'.disarm own).run more = (w'.run more).map (·.disarm own)
  /-- a process is found cancelled only when the request is cut off -/
  stopped : ∀ runner launch, entry.backend w.engine r = .process runner launch →
    LeftAlone w entry moves → ∃ c, j.work = .process c ∧
      (c.outcome? = some (.error .cancelled) → CutOff w entry token moves w')
  /-- and it had been cut off before that was returned -/
  returned : ∀ runner launch, entry.backend w.engine r = .process runner launch →
    LeftAlone w entry moves → j.outcome = some (.error .cancelled) →
      Happened moves fun before m => m = .finish w.jobs.length ∧
        ∃ v, (w.arrive entry r token).run before = some v ∧ CutOff w entry token before v

/-- An engine at work on any number of requests, as far as its deadline is concerned. -/
structure DeadlineLaw (e : Engine) (moves : List WorkloadMove) (w : Workload) : Prop where
  /-- the engine cancels no token of callers: one is cancelled just when a caller has cancelled it
  or one above it, or a deadline of one of these has come -/
  callers : ∀ i, w.OfCallers i → (w.tokens.isCancelled i ↔
    ∃ a, Reaches w.tokens.nodes a i ∧ (CallerCancelled e moves a ∨ CameDue e moves a))
  /-- all deadlines but those that callers set belong to tokens of requests -/
  timers : ∀ a due, due? w.tokens.nodes a = some due →
    CallerTimed e moves a due ∨ w.IsOwnToken a
  requests : ∀ earlier entry r token later, moves = earlier ++ .arrive entry r token :: later →
    ∃ v, (idle e).run earlier = some v ∧
      (token < v.tokens.nodes.length → ∃ j, OnItsOwn v entry r token later w j)

theorem isOwnToken_of_step (h : w.step m = some w') (own : w.IsOwnToken a) : w'.IsOwnToken a := by
  obtain ⟨i, j, hj, ho⟩ := own
  obtain ⟨j', hj', _, same, _⟩ := stays_of_step h hj
  exact ⟨i, j', hj', same.trans ho⟩

/-- Callers give tokens deadlines, and so does the engine for requests. -/
theorem deadline_cases {p after : Nat} (h : w.tokenStep? m = some (.deadline p after)) :
    m = .deadlineToken p after ∨ ∃ entry r, m = .arrive entry r p ∧
      entry.limit? w.engine = some after := by
  cases m with
  | arrive entry r token =>
    obtain ⟨limit, hl, heq⟩ := Option.map_eq_some_iff.mp h
    cases heq
    exact .inr ⟨entry, r, rfl, hl⟩
  | deadlineToken =>
    cases h
    exact .inl rfl
  | finish =>
    obtain ⟨_, _, heq⟩ := Option.map_eq_some_iff.mp h
    cases heq
  | work | newToken | childToken | cancel | advance => cases h

theorem timers_of_run {due : Nat} (ran : (idle e).run moves = some w)
    (hd : due? w.tokens.nodes a = some due) : CallerTimed e moves a due ∨ w.IsOwnToken a := by
  refine run_induct (P := fun moves w => due? w.tokens.nodes a = some due →
    CallerTimed e moves a due ∨ w.IsOwnToken a) ?_ ?_ ran hd
  · rintro ⟨⟩
  · intro moves v m v' ran ih hs hd
    have old (hd : due? v.tokens.nodes a = some due) :
        CallerTimed e (moves ++ [m]) a due ∨ v'.IsOwnToken a :=
      (ih hd).imp (fun h => (befell_concat ran).mpr (.inl h)) fun own => isOwnToken_of_step hs own
    rw [tokens_of_step hs] at hd
    cases hm : v.tokenStep? m with
    | none => exact old (by rwa [hm] at hd)
    | some s =>
      rw [hm, Option.elim_some, due?_apply] at hd
      rcases hd with hd | ⟨ha, p, after, rfl, hdue⟩
      · exact old hd
      · rcases deadline_cases hm with rfl | ⟨entry, r, rfl, hl⟩
        · exact .inl ((befell_concat ran).mpr (.inr ⟨ha, p, after, rfl, hdue⟩))
        · obtain ⟨j, arrived, _⟩ := holds_of_arrive v entry r p
          cases hs
          exact .inr ⟨_, j, arrived.job, by rw [arrived.own, ownTokenOf, hl, ha]; rfl⟩

theorem onItsOwn_of_run (reached : (idle e).run started = some w)
    (held : token < w.tokens.nodes.length) (ran : (w.arrive entry r token).run moves = some w') :
    ∃ j, OnItsOwn w entry r token moves w' j := by
  obtain ⟨j₀, arrived, hn⟩ := holds_of_arrive w entry r token
  obtain ⟨j, h⟩ := arrived.run ran
  have timed {limit : Nat} (hl : entry.limit? w.engine = some limit) :
      w.ownTokenOf entry = some w.tokens.nodes.length ∧ j.token = w.tokens.nodes.length := by
    have made : w.ownTokenOf entry = some w.tokens.nodes.length := by rw [ownTokenOf, hl]; rfl
    exact ⟨made, by rw [h.token, made]; rfl⟩
  refine ⟨j, h.job, ?_, ?_, ?_, ?_, ?_⟩
  · intro hl
    rw [h.token, ownTokenOf, hl]
    rfl
  · intro limit hl
    obtain ⟨made, look⟩ := timed hl
    rw [look]
    exact ⟨made, fun alone => (ownTimer_of_arrive reached held hl).seen ran h.job
      (h.own.trans made) (alone _ made)⟩
  · intro own made hout more
    obtain ⟨limit, hl, rfl⟩ := Option.map_eq_some_iff.mp made
    have whole : (idle e).run (started ++ .arrive entry r token :: moves) = some w' := by
      rw [run_append, reached]
      exact ran
    have causes := cancelledBy_of_run whole
    exact run_disarm causes.settled
      ((causes _).mpr ⟨_, .self, .inr (.inr ⟨_, j, h.job, h.own.trans made, hout⟩)⟩) more
  · intro runner launch hb alone
    obtain ⟨j', c, h', hw, cut⟩ := cutOff_of_stopped hb reached held alone ran
    cases h.job.symm.trans h'.job
    exact ⟨c, hw, cut⟩
  · intro runner launch hb alone ho
    obtain ⟨before, m, after, hm, rfl, v, jv, ran', hjv, _, hout⟩ :=
      returned_of_run arrived.job hn ran h.job ho
    refine ⟨before, _, after, hm, rfl, v, ran', ?_⟩
    have alone : LeftAlone w entry before :=
      fun own made hc => alone own made (hm ▸ List.mem_append_left _ hc)
    obtain ⟨j', c, h', hw, cut⟩ := cutOff_of_stopped hb reached held alone ran'
    cases hjv.symm.trans h'.job
    exact cut (by rwa [hw] at hout)

/-- Whatever an engine is at work on, a deadline concerns one request. -/
theorem a_deadline_concerns_one_request (ran : (idle e).run moves = some w) :
    DeadlineLaw e moves w := by
  refine ⟨fun i hi => ?_, fun a due hd => timers_of_run ran hd, ?_⟩
  · rw [cancelledBy_of_run ran i]
    refine exists_congr fun a => and_congr_right fun hr => ?_
    refine or_congr_right (or_iff_left ?_)
    rintro ⟨k, j, hj, ho, _⟩
    exact hi a ⟨k, j, hj, ho⟩ hr
  · rintro earlier entry r token later rfl
    rw [run_append] at ran
    obtain ⟨v, reached, ran⟩ := Option.bind_eq_some_iff.mp ran
    exact ⟨v, reached, fun held => onItsOwn_of_run reached held ran⟩

/-- A server whose requests have a deadline. -/
def timedServer : Engine := .ofSettings .empty [.timeout 5, .disableLfs]

/-- Two requests on one token, of which the time of the first is up. -/
def overlapping : List WorkloadMove :=
  [.newToken, .arrive (.handle .uploadPack) { dir := "/srv/a.git" } 0, .advance 3,
    .arrive (.handle .receivePack) { dir := "/srv/b.git" } 0, .advance 3,
    .work 0 (.call .enter), .finish 0]

/-- The first request is cancelled. Neither the token of the caller nor the other request is. -/
theorem the_deadline_of_a_request_spares_the_other :
    ∃ w j, (idle timedServer).run overlapping = some w ∧ DeadlineLaw timedServer overlapping w ∧
      w.jobs[0]? = some j ∧ j.outcome = some (.error .cancelled) ∧
      (List.range 3).map w.tokens.isCancelled = [false, true, false] := by
  have ran : (idle timedServer).run overlapping = some _ := rfl
  exact ⟨_, _, ran, a_deadline_concerns_one_request ran, rfl, rfl, rfl⟩

end Workload

end GitSteward
