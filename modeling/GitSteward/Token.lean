-- Tokens by which work is cancelled. They form trees: cancelling a token cancels all that was
-- derived from it, and nothing else. A token may have a deadline, at which it cancels itself. The
-- clock is an ideal one: time passes only in steps of its own, and timers are never late.

namespace GitSteward

/-- A token, in a list where a token comes after the one it is derived from. -/
structure Token where
  parent : Option Nat := none
  cancelled : Bool := false
  /-- when it cancels itself -/
  due : Option Nat := none
deriving Repr, DecidableEq, Inhabited

/-- Tokens by number, and the time in nanoseconds. -/
structure Tokens where
  nodes : List Token := []
  clock : Nat := 0
deriving Repr, DecidableEq, Inhabited

namespace Tokens

/-- Whether a token is cancelled. -/
def isCancelled (t : Tokens) (i : Nat) : Bool := (t.nodes[i]?).any (·.cancelled)

/-- Adds a token after others, cancelled if the one it is derived from is. -/
def derive (done : List Token) (node : Token) : List Token :=
  done ++ [{ node with
    cancelled := node.cancelled || (node.parent.bind (done[·]?)).any (·.cancelled) }]

/-- Hands cancellation down to all that is derived from cancelled tokens. -/
def spread (nodes : List Token) : List Token := nodes.foldl derive []

/-- A new token that is derived from no other. -/
def fresh (t : Tokens) : Tokens × Nat :=
  ({ t with nodes := t.nodes ++ [{}] }, t.nodes.length)

/-- A token derived from another one. -/
def child (t : Tokens) (parent : Nat) : Tokens × Nat :=
  ({ t with nodes := derive t.nodes { parent := some parent } }, t.nodes.length)

/-- A token derived from another one, which also cancels itself when some time has passed. The time
counts from now on: the timer is taken to be running before any time passes. -/
def deadline (t : Tokens) (parent after : Nat) : Tokens × Nat :=
  ({ t with nodes := derive t.nodes { parent := some parent, due := some (t.clock + after) } },
    t.nodes.length)

/-- Cancels a token. -/
def cancel (t : Tokens) (i : Nat) : Tokens :=
  { t with nodes := spread (t.nodes.modify i fun n => { n with cancelled := true }) }

/-- Lets time pass. Tokens whose deadline has come cancel themselves. Timers are taken to fire here
and nowhere else, all that are due before anything else happens. -/
def advance (t : Tokens) (span : Nat) : Tokens :=
  let now := t.clock + span
  let expire (n : Token) : Token := { n with cancelled := n.cancelled || n.due.any (· ≤ now) }
  { nodes := spread (t.nodes.map expire), clock := now }

/-- The next deadline of a token that is not cancelled. -/
def nextDue (t : Tokens) : Option Nat :=
  (t.nodes.filterMap fun n => if n.cancelled then none else n.due).min?

end Tokens

/-- A step in the life of tokens. -/
inductive TokenStep where
  | fresh
  | child (parent : Nat)
  | deadline (parent after : Nat)
  | cancel (token : Nat)
  | advance (span : Nat)
deriving Repr, DecidableEq, Inhabited

namespace Tokens

/-- One token that is derived from no other. -/
def root : Tokens := (({} : Tokens).fresh).1

def apply (t : Tokens) : TokenStep → Tokens
  | .fresh => t.fresh.1
  | .child parent => (t.child parent).1
  | .deadline parent after => (t.deadline parent after).1
  | .cancel token => t.cancel token
  | .advance span => t.advance span

end Tokens

end GitSteward
