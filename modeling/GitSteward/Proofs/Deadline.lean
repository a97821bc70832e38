-- What tokens with deadlines mean, told by what was done to them: a token is cancelled when it or
-- one above it was called off or has reached its deadline. The order in which timers run and the
-- way in which cancellation is handed down make no difference to that.
import GitSteward.Proofs.Descent
import Mathlib.Algebra.GroupWithZero.Nat

namespace GitSteward

/-! ## What has been done -/

/-- Something of a kind was done in a history, seen from what was done before it. -/
def Happened {α : Type} (history : List α) (P : List α → α → Prop) : Prop :=
  ∃ before s after, history = before ++ s :: after ∧ P before s

theorem not_happened_nil {α : Type} {P : List α → α → Prop} : ¬ Happened [] P := by
  rintro ⟨before, s, after, h, _⟩
  simp at h

theorem happened_concat {α : Type} {history : List α} {s : α} {P : List α → α → Prop} :
    Happened (history ++ [s]) P ↔ Happened history P ∨ P history s := by
  constructor
  · rintro ⟨before, s', after, h, hp⟩
    rcases List.eq_nil_or_concat after with rfl | ⟨after, last, rfl⟩
    · obtain ⟨rfl, hs⟩ := List.append_inj' h rfl
      cases hs
      exact .inr hp
    · rw [List.concat_eq_append, ← List.cons_append, ← List.append_assoc] at h
      obtain ⟨rfl, _⟩ := List.append_inj' h rfl
      exact .inl ⟨before, s', after, rfl, hp⟩
  · rintro (⟨before, s', after, rfl, hp⟩ | hp)
    · exact ⟨before, s', after ++ [s], by simp, hp⟩
    · exact ⟨history, s, [], rfl, hp⟩

/-! ## What has been done to tokens -/

section History

variable {history : List TokenStep} {s : TokenStep}

/-- Whether a step makes a token. -/
def TokenStep.makes : TokenStep → Bool
  | .fresh | .child _ | .deadline .. => true
  | .cancel _ | .advance _ => false

/-- How many tokens were made. They have numbers in the order in which they were made. -/
def tokenCount (history : List TokenStep) : Nat := history.countP TokenStep.makes

/-- How much time has passed. -/
def timeAfter (history : List TokenStep) : Nat := (history.map TokenStep.span).sum

/-- A token was derived from another one that was there. -/
def DerivedFrom (history : List TokenStep) (p i : Nat) : Prop :=
  Happened history fun before s => i = tokenCount before ∧ s.parent? = some p ∧ p < i

/-- A token is another one or was derived from what descends from it. -/
inductive DescendsFrom (history : List TokenStep) (a : Nat) : Nat → Prop
  | self : DescendsFrom history a a
  | child {i p : Nat} : DerivedFrom history p i → DescendsFrom history a p →
      DescendsFrom history a i

/-- A token was cancelled by name. -/
def CalledOff (history : List TokenStep) (a : Nat) : Prop :=
  Happened history fun before s => s = .cancel a ∧ a < tokenCount before

/-- A token was made with a deadline, which comes at some time. -/
def HasDeadline (history : List TokenStep) (a due : Nat) : Prop :=
  Happened history fun before s => a = tokenCount before ∧
    ∃ p after, s = .deadline p after ∧ due = timeAfter before + after

/-- The deadline of a token has come at some time. -/
def ComesDue (history : List TokenStep) (now a : Nat) : Prop :=
  ∃ due, HasDeadline history a due ∧ due ≤ now

/-- Time has passed up to the deadline of a token, when the token was there. -/
def Expired (history : List TokenStep) (a : Nat) : Prop :=
  Happened history fun before s => ∃ span, s = .advance span ∧
    ComesDue before (timeAfter before + span) a

theorem tokenCount_concat :
    tokenCount (history ++ [s]) = tokenCount history + if s.makes then 1 else 0 := by
  simp [tokenCount, List.countP_append, List.countP_cons]

theorem timeAfter_concat : timeAfter (history ++ [s]) = timeAfter history + s.span := by
  simp [timeAfter]

end History

namespace Tokens

variable {t : Tokens} {history : List TokenStep} {s : TokenStep} {a i p : Nat}

/-! ## The tokens that a history leads to -/

/-- The tokens after some steps, from when there were none. -/
def after (history : List TokenStep) : Tokens := history.foldl apply {}

theorem after_concat (history : List TokenStep) (s : TokenStep) :
    after (history ++ [s]) = (after history).apply s := by
  simp [after]

theorem length_made (s : TokenStep) (clock : Nat) :
    (s.made? clock).toList.length = if s.makes then 1 else 0 := by
  cases s <;> rfl

theorem length_after (history : List TokenStep) :
    (after history).nodes.length = tokenCount history := by
  induction history using List.reverseRecOn with
  | nil => rfl
  | append_singleton history s ih =>
    rw [after_concat, length_apply, length_made, ih, tokenCount_concat]

theorem clock_after (history : List TokenStep) : (after history).clock = timeAfter history := by
  induction history using List.reverseRecOn with
  | nil => rfl
  | append_singleton history s ih => rw [after_concat, clock_apply, ih, timeAfter_concat]

theorem parent?_after (history : List TokenStep) (i p : Nat) :
    parent? (after history).nodes i = some p ↔ DerivedFrom history p i := by
  induction history using List.reverseRecOn with
  | nil => exact iff_of_false (by rintro ⟨⟩) not_happened_nil
  | append_singleton history s ih =>
    rw [after_concat, parent?_apply, ih, length_after]
    exact happened_concat.symm

theorem due?_after (history : List TokenStep) (a due : Nat) :
    due? (after history).nodes a = some due ↔ HasDeadline history a due := by
  induction history using List.reverseRecOn with
  | nil => exact iff_of_false (by rintro ⟨⟩) not_happened_nil
  | append_singleton history s ih =>
    rw [after_concat, due?_apply, ih, length_after, clock_after]
    exact happened_concat.symm

theorem reaches_after (history : List TokenStep) (a i : Nat) :
    Reaches (after history).nodes a i ↔ DescendsFrom history a i := by
  constructor
  · intro h
    induction h with
    | self => exact .self
    | child hp _ ih => exact .child ((parent?_after history _ _).mp hp) ih
  · intro h
    induction h with
    | self => exact .self
    | child hp _ ih => exact .child ((parent?_after history _ _).mpr hp) ih

theorem isDue_after (history : List TokenStep) (now a : Nat) :
    (after history).IsDue now a ↔ ComesDue history now a := by
  simp only [IsDue, due?_after, ComesDue]

/-- A step strikes just what it calls off or what expires by it. -/
theorem strikes_after (history : List TokenStep) (s : TokenStep) (a : Nat) :
    (after history).Strikes s a ↔ (s = .cancel a ∧ a < tokenCount history) ∨
      ∃ span, s = .advance span ∧ ComesDue history (timeAfter history + span) a := by
  cases s with
  | cancel k =>
    simp only [Strikes, length_after, TokenStep.cancel.injEq, reduceCtorEq, false_and, exists_false,
      or_false]
    constructor <;> (rintro ⟨rfl, h⟩; exact ⟨rfl, h⟩)
  | advance span => simp [Strikes, isDue_after, clock_after]
  | fresh | child | deadline => simp [Strikes]

/-- Every cancelled token has a cause, which it descends from, and every cause has its effect. -/
theorem cancelledBy_after (history : List TokenStep) :
    (after history).CancelledBy fun a => CalledOff history a ∨ Expired history a := by
  induction history using List.reverseRecOn with
  | nil =>
    intro i
    refine iff_of_false (by rintro ⟨⟩) ?_
    rintro ⟨a, _, h | h⟩ <;> exact not_happened_nil h
  | append_singleton history s ih =>
    rw [after_concat]
    have causes (a : Nat) :
        (CalledOff history a ∨ Expired history a) ∨ (after history).Strikes s a ↔
          CalledOff (history ++ [s]) a ∨ Expired (history ++ [s]) a := by
      rw [strikes_after, CalledOff, CalledOff, Expired, Expired, happened_concat, happened_concat,
        or_or_or_comm]
    intro i
    simp only [ih.apply s i, causes]

theorem settled_after (history : List TokenStep) : (after history).Settled :=
  (cancelledBy_after history).settled

theorem grows_steps (t : Tokens) (steps : List TokenStep) : t.Grows (steps.foldl apply t) := by
  induction steps generalizing t with
  | nil => exact .refl t
  | cons s steps ih => exact fun i h => ih _ i (grows_apply t s i h)

/-- A cancelled token stays in all that follows what it is without its deadline. -/
theorem steps_disarm {k : Nat} (h : t.Settled) (hk : t.isCancelled k) (steps : List TokenStep) :
    steps.foldl apply (t.disarm k) = (steps.foldl apply t).disarm k := by
  induction steps generalizing t with
  | nil => rfl
  | cons s steps ih =>
    rw [List.foldl_cons, List.foldl_cons, apply_disarm h hk,
      ih (settled_apply h s) (grows_apply t s k hk)]

/-! ## Timers -/

/-- The timer of a token runs when its time has come. It is gone if the token was cancelled before
that. -/
def fire (t : Tokens) (a : Nat) : Tokens := if t.isCancelled a then t else t.cancel a

theorem asMade_fire (t : Tokens) (a : Nat) : asMade (t.fire a).nodes = asMade t.nodes := by
  rw [fire]
  split
  · rfl
  · exact (asMade_spread _).trans (asMade_modify fun _ => rfl)

theorem settled_fire (h : t.Settled) (a : Nat) : (t.fire a).Settled := by
  rw [fire]
  split
  · exact h
  · exact settled_spread _ _

/-- It makes no difference that the timer of a cancelled token does not run. -/
theorem isCancelled_fire (h : t.Settled) (a i : Nat) : (t.fire a).isCancelled i ↔
    t.isCancelled i ∨ (a < t.nodes.length ∧ Reaches t.nodes a i) := by
  rw [fire]
  split
  · rename_i ha
    refine ⟨.inl, ?_⟩
    rintro (hi | ⟨_, hr⟩)
    · exact hi
    · exact h hr ha
  · have struck : (t.cancel a).isCancelled i ↔ _ := isCancelled_apply h (.cancel a) i
    simpa [Strikes, TokenStep.parent?, and_assoc] using struck

theorem asMade_fires (order : List Nat) (t : Tokens) :
    asMade (order.foldl fire t).nodes = asMade t.nodes := by
  induction order generalizing t with
  | nil => rfl
  | cons a order ih => rw [List.foldl_cons, ih, asMade_fire]

theorem isCancelled_fires (h : t.Settled) (order : List Nat) (i : Nat) :
    (order.foldl fire t).isCancelled i ↔
      t.isCancelled i ∨ ∃ a ∈ order, a < t.nodes.length ∧ Reaches t.nodes a i := by
  induction order generalizing t with
  | nil => simp
  | cons a order ih =>
    have length : (t.fire a).nodes.length = t.nodes.length := by
      rw [← length_asMade, asMade_fire, length_asMade]
    rw [List.foldl_cons, ih (settled_fire h a), isCancelled_fire h, length]
    simp only [reaches_congr (asMade_fire t a), List.mem_cons, exists_eq_or_imp, or_assoc]

/-- When timers run one after the other, in any order, this comes to what time does at once. -/
theorem fires_eq_advance (h : t.Settled) {span : Nat} {order : List Nat}
    (timers : ∀ a, a ∈ order ↔ t.IsDue (t.clock + span) a) :
    ({ order.foldl fire t with clock := t.clock + span } : Tokens) = t.advance span := by
  have made : asMade (t.advance span).nodes = asMade t.nodes := by
    have kept := asMade_apply t (.advance span)
    rwa [TokenStep.made?, Option.toList_none, List.append_nil] at kept
  refine eq_of_asMade ((asMade_fires order t).trans made.symm) (fun i => ?_) rfl
  have each : (order.foldl fire t).isCancelled i ↔ _ := isCancelled_fires h order i
  have whole : (t.advance span).isCancelled i ↔ _ := isCancelled_apply h (.advance span) i
  refine each.trans (Iff.trans ?_ whole.symm)
  simp only [Strikes, TokenStep.parent?, timers]
  have lt {a : Nat} (ha : t.IsDue (t.clock + span) a) : a < t.nodes.length :=
    Strikes.lt (s := .advance span) ha
  grind

/-! ## The law of tokens -/

/-- What tokens are after some steps, told by the steps. -/
structure TokenLaw (history : List TokenStep) (t : Tokens) : Prop where
  /-- a token is cancelled just when it or one that it descends from was called off or expired -/
  cancelled : ∀ i, t.isCancelled i ↔
    ∃ a, DescendsFrom history a i ∧ (CalledOff history a ∨ Expired history a)
  /-- no step takes a cancellation back -/
  kept : ∀ (steps : List TokenStep) i, t.isCancelled i → (steps.foldl apply t).isCancelled i
  /-- calling off a token cancels what descends from it and nothing else -/
  reach : ∀ a i, (t.cancel a).isCancelled i ↔
    t.isCancelled i ∨ (a < tokenCount history ∧ DescendsFrom history a i)
  /-- time cancels what descends from tokens whose deadlines have come and nothing else -/
  expires : ∀ span i, (t.advance span).isCancelled i ↔ t.isCancelled i ∨
    ∃ a, ComesDue history (timeAfter history + span) a ∧ DescendsFrom history a i
  /-- a new token is cancelled from birth just when one above it is, and nothing else is by it -/
  born : ∀ s p, s.parent? = some p → p < tokenCount history → ∀ i,
    (t.apply s).isCancelled i ↔ t.isCancelled i ∨
      (i = tokenCount history ∧ ∃ a, DescendsFrom history a p ∧ t.isCancelled a)
  /-- the deadline of a token that is cancelled before it makes no difference to any token -/
  spent : ∀ a, t.isCancelled a → ∀ (steps : List TokenStep) i,
    (steps.foldl apply (t.disarm a)).isCancelled i = (steps.foldl apply t).isCancelled i
  /-- timers whose time has come may run in any order -/
  order : ∀ (span : Nat) (order : List Nat),
    (∀ a, a ∈ order ↔ ComesDue history (timeAfter history + span) a) →
    ({ order.foldl fire t with clock := t.clock + span } : Tokens) = t.advance span

/-- Starting from one token, whatever is done, a token is cancelled when it or one above it was
called off or has reached its deadline. -/
theorem tokens_are_cancelled_from_above (steps : List TokenStep) :
    TokenLaw (.fresh :: steps) (steps.foldl apply root) := by
  change TokenLaw _ (after (.fresh :: steps))
  generalize (TokenStep.fresh :: steps) = history
  have settled : (after history).Settled := settled_after history
  refine ⟨fun i => ?_, grows_steps _, fun a i => ?_, fun span i => ?_, fun s p hs hp i => ?_,
    fun a ha steps i => ?_, fun span order timers => ?_⟩
  · simpa only [reaches_after] using cancelledBy_after history i
  · refine (isCancelled_apply settled (.cancel a) i).trans ?_
    simp [Strikes, reaches_after, length_after, TokenStep.parent?, and_assoc]
  · refine (isCancelled_apply settled (.advance span) i).trans ?_
    simp [Strikes, isDue_after, reaches_after, clock_after, TokenStep.parent?]
  · have above : (after history).isCancelled p ↔
        ∃ a, DescendsFrom history a p ∧ (after history).isCancelled a := by
      simp only [← reaches_after]
      refine ⟨fun h => ⟨p, .self, h⟩, ?_⟩
      rintro ⟨a, hr, ha⟩
      exact settled hr ha
    have spares (a : Nat) : ¬ (after history).Strikes s a := by
      cases s with
      | child | deadline => exact id
      | fresh | cancel | advance => cases hs
    rw [isCancelled_apply settled, length_after, ← above, hs]
    simp [spares]
  · rw [steps_disarm settled ha, isCancelled_disarm]
  · refine fires_eq_advance settled fun a => ?_
    rw [timers, isDue_after, clock_after]

-- Of two deadlines under each other the outer one comes first, and one beside them is not reached.
example :
    let t := [.deadline 0 5, .deadline 1 9, .deadline 0 7, .advance 6].foldl apply root
    (List.range 4).map t.isCancelled = [false, true, true, false] := by
  decide

end Tokens

end GitSteward
