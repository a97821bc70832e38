-- The tokens of an engine at work. Callers make tokens and cancel them. For a request with a
-- deadline the engine makes one token, under that of the caller, and cancels it when the request is
-- returned. All that is ever cancelled has one of these causes, or a deadline that has come.
import GitSteward.Proofs.Deadline
import GitSteward.Proofs.Workload.Calls

namespace GitSteward

open Tokens

/-- How long a request may take that comes in some way. -/
def Entry.limit? (entry : Entry) (e : Engine) : Option Nat :=
  entry.dispatched?.bind fun _ => e.timeout

namespace Workload

variable {e : Engine} {w w' v : Workload} {m : WorkloadMove} {moves earlier : List WorkloadMove}
variable {i a token limit : Nat} {j j' : Job} {entry : Entry} {r : Request}

/-! ## What a move does to tokens -/

/-- What a move does to tokens, be it a move of a caller or of the engine. -/
def tokenStep? (w : Workload) : WorkloadMove → Option TokenStep
  | .arrive entry _ token => (entry.limit? w.engine).map (.deadline token)
  | .finish i => (w.jobs[i]?.bind (·.ownToken)).map .cancel
  | m => m.tokenStep?

theorem tokens_of_step (h : w.step m = some w') :
    w'.tokens = (w.tokenStep? m).elim w.tokens w.tokens.apply := by
  cases turn_of_step h with
  | dispatches hs =>
    rw [handle_eq, tokenStep?, Entry.limit?, hs]
    cases w.engine.timeout <;> rfl
  | rejects hn =>
    rw [reject_eq, tokenStep?, Entry.limit?, Entry.dispatched?, hn]
    rfl
  | runsGit => rfl
  | works _ _ aside => exact aside.tokens
  | @finishes i j _ hj =>
    rw [(sameWork_returning w i j _).tokens, tokenStep?, hj]
    cases hown : j.ownToken <;> simp [released, hown, Tokens.apply]
  | tokens hs =>
    have same : w.tokenStep? m = m.tokenStep? := by
      cases m <;> first | rfl | cases hs
    rw [same, hs]
    rfl

/-- What every step keeps of tokens is kept by every move. -/
theorem tokens_keep {P : Tokens → Prop} (keep : ∀ s, P w.tokens → P (w.tokens.apply s))
    (h : w.step m = some w') (hp : P w.tokens) : P w'.tokens := by
  rw [tokens_of_step h]
  cases w.tokenStep? m with
  | none => exact hp
  | some s => exact keep s hp

theorem extends_of_step (h : w.step m = some w') : w.tokens.Extends w'.tokens :=
  tokens_keep (P := w.tokens.Extends) (fun s _ => extends_apply _ s) h (.refl _)

theorem extends_of_run (ran : w.run moves = some w') : w.tokens.Extends w'.tokens :=
  run_induct (P := fun _ v => w.tokens.Extends v.tokens) (.refl _)
    (fun _ h hs => h.trans (extends_of_step hs)) ran

theorem settled_of_step (h : w.step m = some w') (settled : w.tokens.Settled) : w'.tokens.Settled :=
  tokens_keep (P := Settled) (fun s hs => settled_apply hs s) h settled

/-! ## The tokens of requests -/

/-- Where a job comes from that is there after a move. -/
inductive Comes (w : Workload) (m : WorkloadMove) (i : Nat) (j' : Job) : Prop
  | rests {j : Job} : w.jobs[i]? = some j → j'.token = j.token → j'.ownToken = j.ownToken →
      j'.outcome = j.outcome → Comes w m i j'
  | returns {j : Job} : m = .finish i → w.jobs[i]? = some j → j'.token = j.token →
      j'.ownToken = j.ownToken → j.outcome = none → j'.outcome.isSome →
      j'.outcome = j.work.outcome? → Comes w m i j'
  | arrives {entry : Entry} {r : Request} {token : Nat} : m = .arrive entry r token →
      i = w.jobs.length →
      j'.ownToken = (entry.limit? w.engine).map (fun _ => w.tokens.nodes.length) →
      j'.token = j'.ownToken.getD token → j'.outcome = none → Comes w m i j'

theorem comes_of_append {new : Job} (hj : (w.jobs ++ [new])[i]? = some j')
    (hn : i = w.jobs.length → j' = new → Comes w m i j') : Comes w m i j' := by
  rcases Nat.lt_trichotomy i w.jobs.length with hi | rfl | hi
  · rw [List.getElem?_append_left hi] at hj
    exact .rests hj rfl rfl rfl
  · rw [List.getElem?_concat_length] at hj
    exact hn rfl (Option.some.inj hj).symm
  · rw [List.getElem?_eq_none (by simp; omega)] at hj
    cases hj

theorem comes_of_set {k : Nat} {old new : Job} (hk : w.jobs[k]? = some old)
    (hj : (w.jobs.set k new)[i]? = some j') (hn : k = i → j' = new → Comes w m i j') :
    Comes w m i j' := by
  by_cases hki : k = i
  · subst hki
    rw [List.getElem?_set_self (List.getElem?_eq_some_iff.mp hk).1] at hj
    exact hn rfl (Option.some.inj hj).symm
  · rw [List.getElem?_set_ne hki] at hj
    exact .rests hj rfl rfl rfl

theorem comes_of_step (h : w.step m = some w') (hj : w'.jobs[i]? = some j') : Comes w m i j' := by
  cases turn_of_step h with
  | @dispatches entry r token s hs =>
    rw [handle_eq] at hj
    refine comes_of_append hj fun hi hn => .arrives rfl hi ?_ ?_ ?_
    · rw [hn, Entry.limit?, hs]
      rfl
    · rw [hn]
      rfl
    · rw [hn]
      rfl
  | rejects hs =>
    rw [reject_eq] at hj
    refine comes_of_append hj fun hi hn => .arrives rfl hi ?_ ?_ ?_
    · rw [hn, Entry.limit?, Entry.dispatched?, hs]
      rfl
    · rw [hn]
      rfl
    · rw [hn]
      rfl
  | runsGit =>
    refine comes_of_append hj fun hi hn => .arrives rfl hi ?_ ?_ ?_
    · rw [hn]
      rfl
    · rw [hn]
      rfl
    · rw [hn]
  | works hk _ aside =>
    rw [aside.jobs] at hj
    exact comes_of_set hk hj fun hi hn => by
      subst hi hn
      exact .rests hk rfl rfl rfl
  | finishes hk hn ho =>
    rw [(sameWork_returning ..).jobs] at hj
    exact comes_of_set hk hj fun hi hnew => by
      subst hi hnew
      exact .returns rfl hk rfl rfl hn rfl ho.symm
  | tokens => exact .rests hj rfl rfl rfl

/-- A request keeps its tokens. -/
theorem stays_of_step (h : w.step m = some w') (hj : w.jobs[i]? = some j) :
    ∃ j', w'.jobs[i]? = some j' ∧ j'.token = j.token ∧ j'.ownToken = j.ownToken ∧
      (j.outcome.isSome → j'.outcome.isSome) := by
  obtain ⟨j', hj', turn⟩ := (goesOn_of_step h).turns i j hj
  refine ⟨j', hj', ?_⟩
  cases turn with
  | rests | calls | handles => exact ⟨rfl, rfl, id⟩
  | finishes => exact ⟨rfl, rfl, fun _ => rfl⟩

/-- Each token that was made for a request is there, and it was made for no other request. -/
structure OwnTokens (w : Workload) : Prop where
  there : ∀ {i : Nat} {j : Job} {own : Nat}, w.jobs[i]? = some j → j.ownToken = some own →
    own < w.tokens.nodes.length
  apart : ∀ {i i' : Nat} {j j' : Job} {own : Nat}, w.jobs[i]? = some j → w.jobs[i']? = some j' →
    j.ownToken = some own → j'.ownToken = some own → i = i'

theorem OwnTokens.step (h : w.OwnTokens) (hs : w.step m = some w') : w'.OwnTokens := by
  have le : w.tokens.nodes.length ≤ w'.tokens.nodes.length := (extends_of_step hs).le
  -- a token of a request is one that it had, or the one that is made by this move
  have cases {i : Nat} {j' : Job} {own : Nat} (hj : w'.jobs[i]? = some j')
      (ho : j'.ownToken = some own) :
      (∃ j, w.jobs[i]? = some j ∧ j.ownToken = some own) ∨
        (i = w.jobs.length ∧ own = w.tokens.nodes.length ∧
          w'.tokens.nodes.length = w.tokens.nodes.length + 1) := by
    cases comes_of_step hs hj with
    | rests hk _ same => exact .inl ⟨_, hk, same ▸ ho⟩
    | returns _ hk _ same => exact .inl ⟨_, hk, same ▸ ho⟩
    | arrives hm hi hown =>
      rw [hown] at ho
      obtain ⟨limit, hl, rfl⟩ := Option.map_eq_some_iff.mp ho
      refine .inr ⟨hi, rfl, ?_⟩
      rw [tokens_of_step hs, hm, tokenStep?, hl]
      exact length_apply w.tokens (.deadline _ limit)
  constructor
  · intro i j own hj ho
    rcases cases hj ho with ⟨j₀, hj₀, ho₀⟩ | ⟨_, rfl, hlen⟩
    · exact Nat.lt_of_lt_of_le (h.there hj₀ ho₀) le
    · omega
  · intro i i' j j' own hj hj' ho ho'
    rcases cases hj ho with ⟨j₀, hj₀, ho₀⟩ | ⟨hi, hown, _⟩
    · rcases cases hj' ho' with ⟨j₁, hj₁, ho₁⟩ | ⟨_, hown', _⟩
      · exact h.apart hj₀ hj₁ ho₀ ho₁
      · exact absurd (h.there hj₀ ho₀) (by omega)
    · rcases cases hj' ho' with ⟨j₁, hj₁, ho₁⟩ | ⟨hi', _, _⟩
      · exact absurd (h.there hj₁ ho₁) (by omega)
      · exact hi.trans hi'.symm

theorem ownTokens_of_run (ran : (idle e).run moves = some w) : w.OwnTokens :=
  run_induct (P := fun _ v => v.OwnTokens) ⟨by simp [idle], by simp [idle]⟩
    (fun _ h hs => h.step hs) ran

/-! ## Causes -/

/-- A move of a kind was made by an engine that was idle in the beginning. -/
def Befell (e : Engine) (moves : List WorkloadMove) (P : Workload → WorkloadMove → Prop) : Prop :=
  Happened moves fun before m => ∃ w, (idle e).run before = some w ∧ P w m

/-- A token was cancelled by name, and not by the engine. -/
def CallerCancelled (e : Engine) (moves : List WorkloadMove) (a : Nat) : Prop :=
  Befell e moves fun w m => m = .cancel a ∧ a < w.tokens.nodes.length

/-- Time has passed up to the deadline of a token. -/
def CameDue (e : Engine) (moves : List WorkloadMove) (a : Nat) : Prop :=
  Befell e moves fun w m => ∃ span, m = .advance span ∧ w.tokens.IsDue (w.tokens.clock + span) a

/-- A caller made a token with a deadline, which comes at some time. -/
def CallerTimed (e : Engine) (moves : List WorkloadMove) (a due : Nat) : Prop :=
  Befell e moves fun w m => a = w.tokens.nodes.length ∧
    ∃ p after, m = .deadlineToken p after ∧ due = w.tokens.clock + after

/-- A token was made for a request that has been returned. -/
def Released (w : Workload) (a : Nat) : Prop :=
  ∃ (i : Nat) (j : Job), w.jobs[i]? = some j ∧ j.ownToken = some a ∧ j.outcome.isSome

theorem befell_concat {P : Workload → WorkloadMove → Prop} (ran : (idle e).run moves = some w) :
    Befell e (moves ++ [m]) P ↔ Befell e moves P ∨ P w m := by
  rw [Befell, happened_concat]
  refine or_congr .rfl ?_
  constructor
  · rintro ⟨v, ran', hp⟩
    cases ran.symm.trans ran'
    exact hp
  · exact fun hp => ⟨w, ran, hp⟩

theorem released_of_step (h : w.step m = some w') (a : Nat) :
    Released w' a ↔ Released w a ∨
      ∃ (i : Nat) (j : Job), m = .finish i ∧ w.jobs[i]? = some j ∧ j.ownToken = some a := by
  constructor
  · rintro ⟨i, j', hj', ho, hout⟩
    cases comes_of_step h hj' with
    | rests hj _ same outcome => exact .inl ⟨i, _, hj, same ▸ ho, outcome ▸ hout⟩
    | returns hm hj _ same => exact .inr ⟨i, _, hm, hj, same ▸ ho⟩
    | arrives _ _ _ _ hn => simp [hn] at hout
  · rintro (⟨i, j, hj, ho, hout⟩ | ⟨i, j, rfl, hj, ho⟩)
    · obtain ⟨j', hj', _, same, returned⟩ := stays_of_step h hj
      exact ⟨i, j', hj', same.trans ho, returned hout⟩
    · obtain ⟨j', hj', turn⟩ := (goesOn_of_step h).turns i j hj
      cases turn with
      | rests hc => simp [WorkloadMove.concerns] at hc
      | finishes => exact ⟨i, _, hj', ho, rfl⟩

/-- What a move strikes among tokens, and by whom. -/
theorem strikes_iff (own : w.OwnTokens) (m : WorkloadMove) (a : Nat) :
    (∃ s, w.tokenStep? m = some s ∧ w.tokens.Strikes s a) ↔
      (m = .cancel a ∧ a < w.tokens.nodes.length) ∨
      (∃ span, m = .advance span ∧ w.tokens.IsDue (w.tokens.clock + span) a) ∨
      ∃ (i : Nat) (j : Job), m = .finish i ∧ w.jobs[i]? = some j ∧ j.ownToken = some a := by
  cases m with
  | arrive entry r token => simp [tokenStep?, Strikes]
  | work i jm => simp [tokenStep?, WorkloadMove.tokenStep?]
  | finish i =>
    constructor
    · rintro ⟨s, hs, hstruck⟩
      obtain ⟨k, ho, rfl⟩ := Option.map_eq_some_iff.mp hs
      obtain ⟨j, hj, ho⟩ := Option.bind_eq_some_iff.mp ho
      exact .inr (.inr ⟨i, j, rfl, hj, hstruck.1 ▸ ho⟩)
    · rintro (⟨⟨⟩, _⟩ | ⟨_, ⟨⟩, _⟩ | ⟨_, j, ⟨⟩, hj, ho⟩)
      exact ⟨.cancel a, by simp [tokenStep?, hj, ho], rfl, own.there hj ho⟩
  | newToken => simp [tokenStep?, WorkloadMove.tokenStep?, Strikes]
  | childToken p => simp [tokenStep?, WorkloadMove.tokenStep?, Strikes]
  | deadlineToken p after => simp [tokenStep?, WorkloadMove.tokenStep?, Strikes]
  | cancel k =>
    constructor
    · rintro ⟨_, ⟨⟩, rfl, hlt⟩
      exact .inl ⟨rfl, hlt⟩
    · rintro (⟨⟨⟩, hlt⟩ | ⟨_, ⟨⟩, _⟩ | ⟨_, _, ⟨⟩, _⟩)
      exact ⟨_, rfl, rfl, hlt⟩
  | advance span => simp [tokenStep?, WorkloadMove.tokenStep?, Strikes]

/-- A token is cancelled just when it or one above it was cancelled by a caller, has reached its
deadline, or was made for a request that has been returned. -/
theorem cancelledBy_of_run (ran : (idle e).run moves = some w) :
    w.tokens.CancelledBy fun a =>
      CallerCancelled e moves a ∨ CameDue e moves a ∨ Released w a := by
  refine run_induct (P := fun moves w => w.tokens.CancelledBy fun a =>
      CallerCancelled e moves a ∨ CameDue e moves a ∨ Released w a) ?_ ?_ ran
  · intro i
    refine iff_of_false (by rintro ⟨⟩) ?_
    rintro ⟨a, _, h | h | ⟨i, j, ⟨⟩, _⟩⟩ <;> exact not_happened_nil h
  · intro moves v m v' ran h hs
    have causes (a : Nat) : (CallerCancelled e moves a ∨ CameDue e moves a ∨ Released v a) ∨
          (∃ s, v.tokenStep? m = some s ∧ v.tokens.Strikes s a) ↔
        CallerCancelled e (moves ++ [m]) a ∨ CameDue e (moves ++ [m]) a ∨ Released v' a := by
      rw [strikes_iff (ownTokens_of_run ran), CallerCancelled, CallerCancelled, CameDue, CameDue,
        befell_concat ran, befell_concat ran, released_of_step hs]
      grind
    have next : v'.tokens.CancelledBy fun a =>
        (CallerCancelled e moves a ∨ CameDue e moves a ∨ Released v a) ∨
          (∃ s, v.tokenStep? m = some s ∧ v.tokens.Strikes s a) := by
      rw [tokens_of_step hs]
      cases v.tokenStep? m with
      | none => simpa using h
      | some s => simpa using h.apply s
    intro i
    simpa only [causes] using next i

end Workload

end GitSteward
