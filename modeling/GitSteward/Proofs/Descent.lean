-- What is derived from what, and what is cancelled with it. A token is derived from one that was
-- there before, so tokens form trees, and all that ever happens to a tree is that it gets new
-- leaves. Cancelling a token, or the coming of its deadline, reaches all that descends from it and
-- nothing else. The deadline of a cancelled token makes no difference any more.
import GitSteward.Proofs.Token

namespace GitSteward

/-- The token that a step derives a new one from. -/
def TokenStep.parent? : TokenStep → Option Nat
  | .child parent | .deadline parent _ => some parent
  | .fresh | .cancel _ | .advance _ => none

/-- The token that a step makes, at some time, if it makes one. -/
def TokenStep.made? (clock : Nat) : TokenStep → Option Token
  | .fresh => some {}
  | .child parent => some { parent := some parent }
  | .deadline parent after => some { parent := some parent, due := some (clock + after) }
  | .cancel _ | .advance _ => none

/-- How long a step takes. -/
def TokenStep.span : TokenStep → Nat
  | .advance span => span
  | .fresh | .child _ | .deadline .. | .cancel _ => 0

namespace Tokens

variable {t : Tokens} {nodes nodes' done more : List Token} {node : Token}
variable {a b i k p now span : Nat} {s : TokenStep}

/-! ## How tokens were made -/

/-- The tokens as they were made, whatever has become of them. -/
def asMade (nodes : List Token) : List Token := nodes.map fun n => { n with cancelled := false }

theorem asMade_append (nodes more : List Token) :
    asMade (nodes ++ more) = asMade nodes ++ asMade more := List.map_append

theorem length_asMade (nodes : List Token) : (asMade nodes).length = nodes.length := by
  simp [asMade]

theorem asMade_derive (done : List Token) (node : Token) :
    asMade (derive done node) = asMade (done ++ [node]) := by
  simp [asMade, derive]

/-- Handing cancellation down makes nothing new. -/
theorem asMade_spread (nodes : List Token) : asMade (spread nodes) = asMade nodes := by
  induction nodes using List.reverseRecOn with
  | nil => rfl
  | append_singleton nodes node ih =>
    rw [spread_snoc, asMade_derive, asMade_append, asMade_append, ih]

/-- The token that a token was derived from, which was there before it. -/
def parent? (nodes : List Token) (i : Nat) : Option Nat :=
  ((asMade nodes)[i]?.bind (·.parent)).filter (· < i)

/-- When a token cancels itself. -/
def due? (nodes : List Token) (i : Nat) : Option Nat := (asMade nodes)[i]?.bind (·.due)

theorem lt_of_parent? (h : parent? nodes i = some p) : p < i := by
  simpa using (Option.filter_eq_some_iff.mp h).2

theorem parent?_append (hi : i < nodes.length) : parent? (nodes ++ more) i = parent? nodes i := by
  rw [parent?, asMade_append, List.getElem?_append_left (by rwa [length_asMade])]
  rfl

theorem due?_append (hi : i < nodes.length) : due? (nodes ++ more) i = due? nodes i := by
  rw [due?, asMade_append, List.getElem?_append_left (by rwa [length_asMade])]
  rfl

theorem asMade_length : (asMade (nodes ++ [node]))[nodes.length]? =
    some { node with cancelled := false } := by
  rw [asMade_append, List.getElem?_append_right (Nat.le_of_eq (length_asMade nodes)),
    length_asMade, Nat.sub_self]
  rfl

/-- A new token has the parent that it is given, if that is there. -/
theorem parent?_length :
    parent? (nodes ++ [node]) nodes.length = node.parent.filter (· < nodes.length) := by
  rw [parent?, asMade_length]
  rfl

theorem due?_length : due? (nodes ++ [node]) nodes.length = node.due := by
  rw [due?, asMade_length]
  rfl

theorem parent?_congr (h : asMade nodes = asMade nodes') : parent? nodes i = parent? nodes' i := by
  rw [parent?, h]
  rfl

theorem due?_congr (h : asMade nodes = asMade nodes') : due? nodes i = due? nodes' i := by
  rw [due?, h]
  rfl

theorem asMade_past (hi : nodes.length ≤ i) : (asMade nodes)[i]? = none :=
  List.getElem?_eq_none (by rwa [length_asMade])

theorem lt_length_of_parent? (h : parent? nodes i = some p) : i < nodes.length := by
  by_contra hi
  rw [parent?, asMade_past (Nat.le_of_not_lt hi)] at h
  cases h

theorem lt_of_due? {due : Nat} (h : due? nodes i = some due) : i < nodes.length := by
  by_contra hi
  rw [due?, asMade_past (Nat.le_of_not_lt hi)] at h
  cases h

/-! ## Descent -/

/-- A token reaches itself and what is derived from tokens that it reaches. -/
inductive Reaches (nodes : List Token) (a : Nat) : Nat → Prop
  | self : Reaches nodes a a
  | child {i p : Nat} : parent? nodes i = some p → Reaches nodes a p → Reaches nodes a i

theorem reaches_iff :
    Reaches nodes a i ↔ a = i ∨ ∃ p, parent? nodes i = some p ∧ Reaches nodes a p := by
  constructor
  · intro h
    cases h with
    | self => exact .inl rfl
    | child hp h => exact .inr ⟨_, hp, h⟩
  · rintro (rfl | ⟨p, hp, h⟩)
    · exact .self
    · exact .child hp h

theorem Reaches.le (h : Reaches nodes a i) : a ≤ i := by
  induction h with
  | self => exact Nat.le_refl _
  | child hp _ ih => exact Nat.le_trans ih (Nat.le_of_lt (lt_of_parent? hp))

theorem Reaches.lt (h : Reaches nodes a i) (ha : a < nodes.length) : i < nodes.length := by
  cases h with
  | self => exact ha
  | child hp => exact lt_length_of_parent? hp

theorem Reaches.trans (h : Reaches nodes a b) (h' : Reaches nodes b i) : Reaches nodes a i := by
  induction h' with
  | self => exact h
  | child hp _ ih => exact .child hp ih

/-- Descent depends on nothing but the parents of tokens. -/
theorem Reaches.congr (same : ∀ i, parent? nodes i = parent? nodes' i) (h : Reaches nodes a i) :
    Reaches nodes' a i := by
  induction h with
  | self => exact .self
  | child hp _ ih => exact .child ((same _).symm.trans hp) ih

theorem reaches_congr (h : asMade nodes = asMade nodes') :
    Reaches nodes a i ↔ Reaches nodes' a i :=
  ⟨.congr fun _ => parent?_congr h, .congr fun _ => parent?_congr h.symm⟩

/-- New tokens do not come between old ones. -/
theorem reaches_append (hi : i < nodes.length) :
    Reaches (nodes ++ more) a i ↔ Reaches nodes a i := by
  constructor
  · intro h
    induction h with
    | self => exact .self
    | child hp _ ih =>
      rw [parent?_append hi] at hp
      exact .child hp (ih (Nat.lt_trans (lt_of_parent? hp) hi))
  · intro h
    induction h with
    | self => exact .self
    | child hp _ ih =>
      refine .child ?_ (ih (Nat.lt_trans (lt_of_parent? hp) hi))
      rwa [parent?_append hi]

/-! ## What is cancelled with a token -/

theorem marked_concat : marked (nodes ++ [node]) i ↔
    marked nodes i ∨ (i = nodes.length ∧ node.cancelled) := by
  unfold marked
  rcases Nat.lt_trichotomy i nodes.length with hi | rfl | hi
  · rw [List.getElem?_append_left hi]
    simp [Nat.ne_of_lt hi]
  · simp
  · rw [List.getElem?_eq_none (by simp; omega), List.getElem?_eq_none (Nat.le_of_lt hi)]
    simp [Nat.ne_of_gt hi]

theorem marked_derive_iff : marked (derive done node) i ↔
    marked done i ∨
      (i = done.length ∧ (node.cancelled ∨ ∃ p, node.parent = some p ∧ marked done p)) := by
  have new : (node.parent.bind (done[·]?)).any (·.cancelled) ↔
      ∃ p, node.parent = some p ∧ marked done p := by
    cases node.parent <;> simp [marked]
  rw [derive, marked_concat, Bool.or_eq_true, new]

/-- Handing cancellation down cancels just what a cancelled token reaches. -/
theorem marked_spread_iff :
    marked (spread nodes) i ↔ ∃ a, Reaches nodes a i ∧ marked nodes a := by
  induction nodes using List.reverseRecOn generalizing i with
  | nil =>
    constructor
    · intro h
      cases lt_of_marked h
    · rintro ⟨a, _, h⟩
      cases lt_of_marked h
  | append_singleton nodes node ih =>
    rw [spread_snoc, marked_derive_iff, length_spread]
    constructor
    · rintro (h | ⟨rfl, h | ⟨p, hp, h⟩⟩)
      · have hi : i < nodes.length := by
          have := lt_of_marked h
          rwa [length_spread] at this
        obtain ⟨a, hr, ha⟩ := ih.mp h
        exact ⟨a, (reaches_append hi).mpr hr, marked_append ha⟩
      · exact ⟨nodes.length, .self, marked_concat.mpr (.inr ⟨rfl, h⟩)⟩
      · have hlt : p < nodes.length := by
          have := lt_of_marked h
          rwa [length_spread] at this
        obtain ⟨a, hr, ha⟩ := ih.mp h
        refine ⟨a, .child ?_ ((reaches_append hlt).mpr hr), marked_append ha⟩
        rw [parent?_length, hp]
        simpa using hlt
    · rintro ⟨a, hr, ha⟩
      have old {b : Nat} (hb : b < nodes.length) (hr : Reaches (nodes ++ [node]) a b) :
          marked (spread nodes) b := by
        rcases marked_concat.mp ha with ha | ⟨rfl, _⟩
        · exact ih.mpr ⟨a, (reaches_append hb).mp hr, ha⟩
        · exact absurd hr.le (Nat.not_le_of_lt hb)
      rcases Nat.lt_trichotomy i nodes.length with hi | rfl | hi
      · exact .inl (old hi hr)
      · rcases reaches_iff.mp hr with rfl | ⟨p, hp, hr⟩
        · rcases marked_concat.mp ha with ha | ⟨_, ha⟩
          · exact absurd (lt_of_marked ha) (Nat.lt_irrefl _)
          · exact .inr ⟨rfl, .inl ha⟩
        · refine .inr ⟨rfl, .inr ⟨p, ?_, old (lt_of_parent? hp) hr⟩⟩
          rw [parent?_length] at hp
          exact (Option.filter_eq_some_iff.mp hp).1
      · -- there is no such token, so that nothing but itself could have reached it
        have none : parent? (nodes ++ [node]) i = none := by
          rw [parent?, asMade_past (by simp; omega)]
          rfl
        rcases reaches_iff.mp hr with rfl | ⟨p, hp, _⟩
        · have := lt_of_marked ha
          simp at this
          omega
        · rw [none] at hp
          cases hp

/-- All that descends from a cancelled token is cancelled. -/
def Settled (t : Tokens) : Prop :=
  ∀ {a i : Nat}, Reaches t.nodes a i → t.isCancelled a → t.isCancelled i

theorem settled_spread (nodes : List Token) (clock : Nat) : Settled ⟨spread nodes, clock⟩ := by
  intro a i hr ha
  obtain ⟨b, hb, h⟩ := marked_spread_iff.mp ha
  exact marked_spread_iff.mpr
    ⟨b, hb.trans ((reaches_congr (asMade_spread nodes)).mp hr), h⟩

/-- When tokens are struck and cancellation is handed down, what they reach is cancelled, and all
else stays as it is. -/
theorem marked_spread_struck {struck : Nat → Prop} (h : t.Settled)
    (made : asMade nodes = asMade t.nodes)
    (marks : ∀ a, marked nodes a ↔ t.isCancelled a ∨ struck a) :
    marked (spread nodes) i ↔ t.isCancelled i ∨ ∃ a, struck a ∧ Reaches t.nodes a i := by
  rw [marked_spread_iff]
  constructor
  · rintro ⟨a, hr, ha⟩
    have hr := (reaches_congr made).mp hr
    rcases (marks a).mp ha with ha | ha
    · exact .inl (h hr ha)
    · exact .inr ⟨a, ha, hr⟩
  · rintro (hi | ⟨a, ha, hr⟩)
    · exact ⟨i, .self, (marks i).mpr (.inl hi)⟩
    · exact ⟨a, (reaches_congr made).mpr hr, (marks a).mpr (.inr ha)⟩

/-! ## One step -/

/-- The deadline of a token has come by some time. -/
def IsDue (t : Tokens) (now a : Nat) : Prop := ∃ due, due? t.nodes a = some due ∧ due ≤ now

/-- A step cancels a token of itself: it is told to, or it brings the deadline of the token. -/
def Strikes (t : Tokens) (s : TokenStep) (a : Nat) : Prop :=
  match s with
  | .cancel k => a = k ∧ k < t.nodes.length
  | .advance span => t.IsDue (t.clock + span) a
  | .fresh | .child _ | .deadline .. => False

theorem clock_apply (t : Tokens) (s : TokenStep) : (t.apply s).clock = t.clock + s.span := by
  cases s <;> rfl

/-- A step that makes a token does nothing else. -/
theorem apply_of_made (hs : s.made? t.clock = some node) :
    t.apply s = { t with nodes := derive t.nodes node } ∧ node.cancelled = false := by
  cases s <;> cases hs <;> exact ⟨rfl, rfl⟩

theorem asMade_modify {f : Token → Token}
    (hf : ∀ n, ({ f n with cancelled := false } : Token) = { n with cancelled := false }) :
    asMade (nodes.modify i f) = asMade nodes := by
  apply List.ext_getElem?
  intro k
  rw [asMade, asMade, List.getElem?_map, List.getElem?_map, List.getElem?_modify]
  by_cases hik : i = k
  · cases nodes[k]? <;> simp [hik, hf]
  · simp [hik]

/-- A step makes one token at most and leaves the others as they were made. -/
theorem asMade_apply (t : Tokens) (s : TokenStep) :
    asMade (t.apply s).nodes = asMade (t.nodes ++ (s.made? t.clock).toList) := by
  cases hs : s.made? t.clock with
  | some node =>
    rw [(apply_of_made hs).1]
    exact asMade_derive _ _
  | none =>
    rw [Option.toList_none, List.append_nil]
    cases s with
    | fresh | child | deadline => cases hs
    | cancel k => exact (asMade_spread _).trans (asMade_modify fun _ => rfl)
    | advance span =>
      refine (asMade_spread _).trans ?_
      simp [asMade, Function.comp_def]

theorem marked_cancel (t : Tokens) (k a : Nat) :
    marked (t.nodes.modify k fun n => { n with cancelled := true }) a ↔
      t.isCancelled a ∨ t.Strikes (.cancel k) a := by
  rw [isCancelled_eq, marked, marked, List.getElem?_modify]
  by_cases hk : k = a
  · subst hk
    rcases Nat.lt_or_ge k t.nodes.length with hlt | hge
    · simp [Strikes, hlt]
    · simp [Strikes, Nat.not_lt_of_ge hge]
  · simp [Strikes, hk, Ne.symm hk]

theorem marked_expire (t : Tokens) (now a : Nat) :
    marked (t.nodes.map fun n => { n with cancelled := n.cancelled || n.due.any (· ≤ now) }) a ↔
      t.isCancelled a ∨ t.IsDue now a := by
  rw [isCancelled_eq, marked, marked, IsDue, due?, asMade, List.getElem?_map, List.getElem?_map]
  cases t.nodes[a]? with
  | none => simp
  | some node => cases hd : node.due <;> simp [hd]

theorem isCancelled_derive :
    ({ t with nodes := derive t.nodes node } : Tokens).isCancelled i ↔
      t.isCancelled i ∨ (i = t.nodes.length ∧
        (node.cancelled ∨ ∃ p, node.parent = some p ∧ t.isCancelled p)) :=
  marked_derive_iff

/-- What a step cancels: the tokens that it strikes with all that they reach, and a new token whose
parent is cancelled. -/
theorem isCancelled_apply (h : t.Settled) (s : TokenStep) (i : Nat) :
    (t.apply s).isCancelled i ↔ t.isCancelled i ∨ (∃ a, t.Strikes s a ∧ Reaches t.nodes a i) ∨
      (i = t.nodes.length ∧ ∃ p, s.parent? = some p ∧ t.isCancelled p) := by
  cases hs : s.made? t.clock with
  | some node =>
    rw [(apply_of_made hs).1, isCancelled_derive]
    cases s <;> cases hs <;> simp [Strikes, TokenStep.parent?]
  | none =>
    have struck : (t.apply s).isCancelled i ↔
        t.isCancelled i ∨ ∃ a, t.Strikes s a ∧ Reaches t.nodes a i := by
      cases s with
      | fresh | child | deadline => cases hs
      | cancel k => exact marked_spread_struck h (asMade_modify fun _ => rfl) (marked_cancel t k)
      | advance span =>
        refine marked_spread_struck h ?_ (marked_expire t (t.clock + span))
        simp [asMade, Function.comp_def]
    have underived : s.parent? = none := by cases s <;> first | rfl | cases hs
    rw [struck, underived]
    simp

theorem settled_apply (h : t.Settled) (s : TokenStep) : (t.apply s).Settled := by
  cases hs : s.made? t.clock with
  | none =>
    cases s with
    | fresh | child | deadline => cases hs
    | cancel | advance => exact settled_spread _ _
  | some node =>
    obtain ⟨same, hn⟩ := apply_of_made hs
    rw [same]
    intro a i hr ha
    have hr : Reaches (t.nodes ++ [node]) a i := (reaches_congr (asMade_derive _ _)).mp hr
    rw [isCancelled_derive] at ha ⊢
    have old {b : Nat} (hb : b < t.nodes.length) (hab : Reaches (t.nodes ++ [node]) a b) :
        t.isCancelled b := by
      rcases ha with ha | ⟨rfl, _⟩
      · exact h ((reaches_append hb).mp hab) ha
      · exact absurd hab.le (Nat.not_le_of_lt hb)
    rcases reaches_iff.mp hr with rfl | ⟨p, hp, hap⟩
    · exact ha
    rcases Nat.lt_trichotomy i t.nodes.length with hi | rfl | hi
    · exact .inl (old hi (.child hp hap))
    · refine .inr ⟨rfl, .inr ⟨p, ?_, old (lt_of_parent? hp) hap⟩⟩
      rw [parent?_length] at hp
      exact (Option.filter_eq_some_iff.mp hp).1
    · rw [parent?, asMade_past (by simp; omega)] at hp
      cases hp

/-- A step does not change what reaches the tokens that there are. -/
theorem reaches_apply (s : TokenStep) (hi : i < t.nodes.length) :
    Reaches (t.apply s).nodes a i ↔ Reaches t.nodes a i :=
  (reaches_congr (asMade_apply t s)).trans (reaches_append hi)

theorem length_apply (t : Tokens) (s : TokenStep) :
    (t.apply s).nodes.length = t.nodes.length + (s.made? t.clock).toList.length := by
  rw [← length_asMade, asMade_apply, length_asMade, List.length_append]

theorem parent?_apply (t : Tokens) (s : TokenStep) : parent? (t.apply s).nodes i = some p ↔
    parent? t.nodes i = some p ∨ (i = t.nodes.length ∧ s.parent? = some p ∧ p < i) := by
  rw [parent?_congr (asMade_apply t s)]
  cases hs : s.made? t.clock with
  | none =>
    have underived : s.parent? = none := by cases s <;> first | rfl | cases hs
    simp [underived]
  | some node =>
    have derived : node.parent = s.parent? := by cases s <;> cases hs <;> rfl
    rcases Nat.lt_trichotomy i t.nodes.length with hi | rfl | hi
    · rw [parent?_append hi]
      simp [Nat.ne_of_lt hi]
    · have none : parent? t.nodes t.nodes.length ≠ some p :=
        fun h => Nat.lt_irrefl _ (lt_length_of_parent? h)
      rw [Option.toList_some, parent?_length, derived]
      simp [none, Option.filter_eq_some_iff]
    · have none {l : List Token} (hl : l.length ≤ i) : parent? l i ≠ some p :=
        fun h => Nat.not_lt_of_ge hl (lt_length_of_parent? h)
      simp [none (Nat.le_of_lt hi), none (l := t.nodes ++ [node]) (by simp; omega),
        Nat.ne_of_gt hi]

theorem due?_apply {due : Nat} (t : Tokens) (s : TokenStep) :
    due? (t.apply s).nodes i = some due ↔ due? t.nodes i = some due ∨
      (i = t.nodes.length ∧ ∃ p after, s = .deadline p after ∧ due = t.clock + after) := by
  rw [due?_congr (asMade_apply t s)]
  cases hs : s.made? t.clock with
  | none =>
    cases s with
    | fresh | child | deadline => cases hs
    | cancel | advance => simp
  | some node =>
    have timed : node.due = some due ↔
        ∃ p after, s = .deadline p after ∧ due = t.clock + after := by
      cases s <;> cases hs <;> simp [eq_comm]
    rcases Nat.lt_trichotomy i t.nodes.length with hi | rfl | hi
    · rw [due?_append hi]
      simp [Nat.ne_of_lt hi]
    · have none : due? t.nodes t.nodes.length ≠ some due :=
        fun h => Nat.lt_irrefl _ (lt_of_due? h)
      rw [Option.toList_some, due?_length, timed]
      simp [none]
    · have none {l : List Token} (hl : l.length ≤ i) : due? l i ≠ some due :=
        fun h => Nat.not_lt_of_ge hl (lt_of_due? h)
      simp [none (Nat.le_of_lt hi), none (l := t.nodes ++ [node]) (by simp; omega),
        Nat.ne_of_gt hi]

/-! ## What lasts -/

/-- Tokens as they may be later: there may be more of them, and each is as it was made. -/
def Extends (t u : Tokens) : Prop := ∃ more, asMade u.nodes = asMade (t.nodes ++ more)

variable {u v : Tokens}

theorem Extends.refl (t : Tokens) : t.Extends t := ⟨[], by rw [List.append_nil]⟩

theorem Extends.trans (h : t.Extends u) (h' : u.Extends v) : t.Extends v := by
  obtain ⟨more, h⟩ := h
  obtain ⟨more', h'⟩ := h'
  refine ⟨more ++ more', ?_⟩
  rw [h', asMade_append, h, ← asMade_append, List.append_assoc]

theorem extends_apply (t : Tokens) (s : TokenStep) : t.Extends (t.apply s) := ⟨_, asMade_apply t s⟩

theorem Extends.le (h : t.Extends u) : t.nodes.length ≤ u.nodes.length := by
  obtain ⟨more, h⟩ := h
  rw [← length_asMade u.nodes, h, length_asMade, List.length_append]
  omega

theorem Extends.parent? (h : t.Extends u) (hi : i < t.nodes.length) :
    parent? u.nodes i = parent? t.nodes i := by
  obtain ⟨more, h⟩ := h
  rw [parent?_congr h, parent?_append hi]

theorem Extends.due? (h : t.Extends u) (hi : i < t.nodes.length) :
    due? u.nodes i = due? t.nodes i := by
  obtain ⟨more, h⟩ := h
  rw [due?_congr h, due?_append hi]

/-! ## Causes -/

/-- The cancelled tokens are those that a token reaches for which there is a cause. -/
def CancelledBy (t : Tokens) (cause : Nat → Prop) : Prop :=
  ∀ i, t.isCancelled i ↔ ∃ a, Reaches t.nodes a i ∧ cause a

theorem CancelledBy.settled {cause : Nat → Prop} (h : t.CancelledBy cause) : t.Settled := by
  intro a i hr ha
  obtain ⟨b, hb, hc⟩ := (h a).mp ha
  exact (h i).mpr ⟨b, hb.trans hr, hc⟩

theorem CancelledBy.lt {cause : Nat → Prop} (h : t.CancelledBy cause) (ha : cause a) :
    a < t.nodes.length :=
  lt_of_marked ((h a).mpr ⟨a, .self, ha⟩)

theorem Strikes.lt (h : t.Strikes s a) : a < t.nodes.length := by
  cases s with
  | cancel => exact h.1 ▸ h.2
  | advance =>
    obtain ⟨due, hd, _⟩ := h
    exact lt_of_due? hd
  | fresh | child | deadline => cases h

/-- Each step adds the tokens that it strikes to the causes. -/
theorem CancelledBy.apply {cause : Nat → Prop} (h : t.CancelledBy cause) (s : TokenStep) :
    (t.apply s).CancelledBy fun a => cause a ∨ t.Strikes s a := by
  intro i
  have lt {a : Nat} (ha : cause a ∨ t.Strikes s a) : a < t.nodes.length :=
    ha.elim h.lt fun ha => ha.lt
  rw [isCancelled_apply h.settled]
  constructor
  · rintro (hi | ⟨a, ha, hr⟩ | ⟨rfl, p, hp, hc⟩)
    · obtain ⟨a, hr, ha⟩ := (h i).mp hi
      exact ⟨a, (reaches_apply s (lt_of_marked hi)).mpr hr, .inl ha⟩
    · exact ⟨a, (reaches_apply s (hr.lt ha.lt)).mpr hr, .inr ha⟩
    · obtain ⟨a, hr, ha⟩ := (h p).mp hc
      have hlt : p < t.nodes.length := lt_of_marked hc
      exact ⟨a, .child ((parent?_apply t s).mpr (.inr ⟨rfl, hp, hlt⟩))
        ((reaches_apply s hlt).mpr hr), .inl ha⟩
  · rintro ⟨a, hr, ha⟩
    by_cases hi : i < t.nodes.length
    · have hr := (reaches_apply s hi).mp hr
      rcases ha with ha | ha
      · exact .inl ((h i).mpr ⟨a, hr, ha⟩)
      · exact .inr (.inl ⟨a, ha, hr⟩)
    · -- the cause is older than the token, which thus has a parent
      rcases reaches_iff.mp hr with rfl | ⟨p, hp, hap⟩
      · exact absurd (lt ha) hi
      rcases (parent?_apply t s).mp hp with hp | ⟨rfl, hp, hlt⟩
      · exact absurd (lt_length_of_parent? hp) hi
      · have hap := (reaches_apply s hlt).mp hap
        rcases ha with ha | ha
        · exact .inr (.inr ⟨rfl, p, hp, (h p).mpr ⟨a, hap, ha⟩⟩)
        · cases s with
          | cancel | advance => cases hp
          | fresh | child | deadline => cases ha

/-! ## Deadlines that make no difference -/

/-- Takes its deadline from a token. -/
def disarm (t : Tokens) (i : Nat) : Tokens :=
  { t with nodes := t.nodes.modify i fun n => { n with due := none } }

theorem isCancelled_disarm (t : Tokens) (k i : Nat) :
    (t.disarm k).isCancelled i = t.isCancelled i := by
  rw [isCancelled_eq, isCancelled_eq, marked, marked, disarm, List.getElem?_modify]
  by_cases hik : k = i
  · cases t.nodes[i]? <;> simp [hik]
  · simp [hik]

theorem length_disarm (t : Tokens) (k : Nat) : (t.disarm k).nodes.length = t.nodes.length := by
  simp [disarm]

theorem asMade_disarm (t : Tokens) (k : Nat) :
    asMade (t.disarm k).nodes = (asMade t.nodes).modify k fun n => { n with due := none } := by
  apply List.ext_getElem?
  intro i
  rw [asMade, asMade, disarm, List.getElem?_map, List.getElem?_modify, List.getElem?_modify,
    List.getElem?_map]
  by_cases hik : k = i
  · cases t.nodes[i]? <;> simp [hik]
  · simp [hik]

theorem parent?_disarm (t : Tokens) (k i : Nat) :
    parent? (t.disarm k).nodes i = parent? t.nodes i := by
  rw [parent?, parent?, asMade_disarm, List.getElem?_modify]
  by_cases hik : k = i
  · cases (asMade t.nodes)[i]? <;> simp [hik]
  · simp [hik]

theorem due?_disarm (t : Tokens) (k i : Nat) :
    due? (t.disarm k).nodes i = if k = i then none else due? t.nodes i := by
  rw [due?, due?, asMade_disarm, List.getElem?_modify]
  by_cases hik : k = i
  · cases (asMade t.nodes)[i]? <;> simp [hik]
  · simp [hik]

theorem reaches_disarm : Reaches (t.disarm k).nodes a i ↔ Reaches t.nodes a i :=
  ⟨.congr fun i => parent?_disarm t k i, .congr fun i => (parent?_disarm t k i).symm⟩

theorem settled_disarm (h : t.Settled) (k : Nat) : (t.disarm k).Settled := by
  intro a i hr ha
  rw [isCancelled_disarm] at ha ⊢
  exact h (reaches_disarm.mp hr) ha

/-- Tokens are the same when they were made and cancelled alike. -/
theorem eq_of_asMade {u : Tokens} (made : asMade t.nodes = asMade u.nodes)
    (marks : ∀ i, t.isCancelled i ↔ u.isCancelled i) (clock : t.clock = u.clock) : t = u := by
  have nodes : t.nodes = u.nodes := by
    apply List.ext_getElem?
    intro i
    have hm : (asMade t.nodes)[i]? = (asMade u.nodes)[i]? := by rw [made]
    have hc := marks i
    rw [asMade, asMade, List.getElem?_map, List.getElem?_map] at hm
    rw [isCancelled_eq, isCancelled_eq, marked, marked] at hc
    cases ht : t.nodes[i]? with
    | none =>
      cases hu : u.nodes[i]? with
      | none => rfl
      | some n => simp [ht, hu] at hm
    | some n =>
      cases hu : u.nodes[i]? with
      | none => simp [ht, hu] at hm
      | some n' =>
        simp only [ht, hu, Option.any_some] at hc
        simp only [ht, hu, Option.map_some, Option.some.injEq, Token.mk.injEq] at hm
        have hb : n.cancelled = n'.cancelled := by rwa [Bool.eq_iff_iff]
        cases n
        cases n'
        simp_all
  cases t
  cases u
  cases nodes
  cases clock
  rfl

theorem strikes_disarm (hka : k ≠ a) (h : t.Strikes s a) : (t.disarm k).Strikes s a := by
  cases s with
  | cancel => simpa only [Strikes, length_disarm] using h
  | advance span =>
    obtain ⟨due, hd, hle⟩ := h
    exact ⟨due, by rwa [due?_disarm, if_neg hka], hle⟩
  | fresh | child | deadline => exact h

theorem strikes_of_disarm (h : (t.disarm k).Strikes s a) : t.Strikes s a := by
  cases s with
  | cancel => simpa only [Strikes, length_disarm] using h
  | advance span =>
    obtain ⟨due, hd, hle⟩ := h
    rw [due?_disarm] at hd
    split at hd
    · cases hd
    · exact ⟨due, hd, hle⟩
  | fresh | child | deadline => exact h

/-- The deadline of a cancelled token makes no difference to what a step does. -/
theorem apply_disarm (h : t.Settled) (hk : t.isCancelled k) (s : TokenStep) :
    (t.disarm k).apply s = (t.apply s).disarm k := by
  have hlt : k < t.nodes.length := lt_of_marked hk
  refine eq_of_asMade ?_ (fun i => ?_) ?_
  · rw [asMade_disarm, asMade_apply, asMade_apply, asMade_append, asMade_append, asMade_disarm]
    apply List.ext_getElem?
    intro i
    rw [List.getElem?_modify, List.getElem?_append, List.getElem?_append, List.getElem?_modify,
      List.length_modify, length_asMade]
    split
    · rfl
    · rename_i hi
      have hki : k ≠ i := by omega
      simp [hki, disarm]
  · rw [isCancelled_apply (settled_disarm h k), isCancelled_disarm, isCancelled_disarm,
      isCancelled_apply h, length_disarm]
    simp only [isCancelled_disarm, reaches_disarm]
    -- all that the deadline could reach is cancelled as it is
    have struck : (t.isCancelled i ∨ ∃ a, (t.disarm k).Strikes s a ∧ Reaches t.nodes a i) ↔
        (t.isCancelled i ∨ ∃ a, t.Strikes s a ∧ Reaches t.nodes a i) := by
      constructor
      · rintro (hi | ⟨a, ha, hr⟩)
        · exact .inl hi
        · exact .inr ⟨a, strikes_of_disarm ha, hr⟩
      · rintro (hi | ⟨a, ha, hr⟩)
        · exact .inl hi
        · by_cases hak : k = a
          · exact .inl (h hr (hak ▸ hk))
          · exact .inr ⟨a, strikes_disarm hak ha, hr⟩
    rw [← or_assoc, struck, or_assoc]
  · rw [clock_apply]
    exact (clock_apply t s).symm

end Tokens

end GitSteward
