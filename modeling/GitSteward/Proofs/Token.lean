-- Tokens only ever become cancelled. Nothing that is done to tokens takes a cancellation back, and
-- a token derived from a cancelled one is cancelled from the beginning.
import GitSteward.Token
import Mathlib.Data.List.Induction

namespace GitSteward.Tokens

variable {t : Tokens} {nodes done : List Token} {node : Token} {i : Nat}

/-! ## The nodes -/

/-- Whether a token in a list is cancelled. -/
def marked (nodes : List Token) (i : Nat) : Bool := (nodes[i]?).any (·.cancelled)

theorem isCancelled_eq (t : Tokens) (i : Nat) : t.isCancelled i = marked t.nodes i := rfl

theorem lt_of_marked (h : marked nodes i) : i < nodes.length := by
  unfold marked at h
  by_contra hi
  simp [List.getElem?_eq_none (Nat.le_of_not_lt hi)] at h

theorem marked_append {more : List Token} (h : marked nodes i) : marked (nodes ++ more) i := by
  unfold marked at h ⊢
  rw [List.getElem?_append_left (lt_of_marked h)]
  exact h

theorem marked_derive (h : marked done i) : marked (derive done node) i := marked_append h

/-- A token is cancelled from the beginning if the one it is derived from is. -/
theorem marked_derive_new {parent : Nat} (hp : node.parent = some parent)
    (h : marked done parent) : marked (derive done node) done.length := by
  unfold marked at h
  simp [marked, derive, hp, h]

theorem marked_derive_self (h : node.cancelled) : marked (derive done node) done.length := by
  simp [marked, derive, h]

theorem length_derive : (derive done node).length = done.length + 1 := by simp [derive]

theorem spread_snoc : spread (nodes ++ [node]) = derive (spread nodes) node := by
  simp [spread]

theorem length_spread (nodes : List Token) : (spread nodes).length = nodes.length := by
  induction nodes using List.reverseRecOn with
  | nil => rfl
  | append_singleton nodes node ih => rw [spread_snoc, length_derive, ih, List.length_append]; rfl

/-- Handing cancellation down takes none back. -/
theorem marked_spread (h : marked nodes i) : marked (spread nodes) i := by
  induction nodes using List.reverseRecOn with
  | nil => exact h
  | append_singleton nodes node ih =>
    rw [spread_snoc]
    rcases Nat.lt_or_ge i nodes.length with hi | hi
    · refine marked_derive (ih ?_)
      unfold marked at h ⊢
      rwa [List.getElem?_append_left hi] at h
    · have hlast : i = nodes.length := by
        have hlt := lt_of_marked h
        simp at hlt
        omega
      subst hlast
      rw [← length_spread nodes]
      exact marked_derive_self (by simpa [marked] using h)

/-! ## What becomes of tokens -/

/-- All that is cancelled stays cancelled. -/
def Grows (t u : Tokens) : Prop := ∀ i, t.isCancelled i → u.isCancelled i

theorem Grows.refl (t : Tokens) : t.Grows t := fun _ h => h

theorem grows_fresh (t : Tokens) : t.Grows t.fresh.1 := fun _ => marked_append

theorem grows_child (t : Tokens) (parent : Nat) : t.Grows (t.child parent).1 :=
  fun _ => marked_derive

theorem grows_deadline (t : Tokens) (parent after : Nat) : t.Grows (t.deadline parent after).1 :=
  fun _ => marked_derive

theorem grows_cancel (t : Tokens) (i : Nat) : t.Grows (t.cancel i) := by
  intro k h
  refine marked_spread ?_
  rw [isCancelled_eq, marked] at h
  rw [marked, List.getElem?_modify]
  cases hk : t.nodes[k]? with
  | none => simp [hk] at h
  | some node =>
    have hc : node.cancelled := by simpa [hk] using h
    by_cases hik : i = k <;> simp [hik, hc]

theorem grows_advance (t : Tokens) (span : Nat) : t.Grows (t.advance span) := by
  intro k h
  refine marked_spread ?_
  rw [isCancelled_eq, marked] at h
  rw [marked, List.getElem?_map]
  cases hk : t.nodes[k]? with
  | none => simp [hk] at h
  | some node =>
    have hc : node.cancelled := by simpa [hk] using h
    simp [hc]

theorem grows_apply (t : Tokens) (s : TokenStep) : t.Grows (t.apply s) := by
  cases s with
  | fresh => exact grows_fresh t
  | child p => exact grows_child t p
  | deadline p after => exact grows_deadline t p after
  | cancel a => exact grows_cancel t a
  | advance span => exact grows_advance t span

/-- A deadline set on a cancelled token has come from the beginning. -/
theorem deadline_cancelled {parent : Nat} (h : t.isCancelled parent) (after : Nat) :
    (t.deadline parent after).1.isCancelled (t.deadline parent after).2 :=
  marked_derive_new rfl h

end GitSteward.Tokens
