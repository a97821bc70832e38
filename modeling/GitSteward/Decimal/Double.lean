-- Numbers of double precision taken apart: a whole number times a power of two.

namespace GitSteward.Decimal

/-- A decimal `digits * 10 ^ exponent`. -/
structure Denary where
  digits : Nat
  exponent : Int
deriving Repr, DecidableEq, Inhabited

/-- A positive number `significand * 2 ^ exponent`. -/
structure Binary where
  significand : Nat
  exponent : Int
  /-- whether the next number below is half as far as the next one above -/
  isBoundary : Bool := false
deriving Repr, DecidableEq, Inhabited

/-- A number of double precision taken apart. -/
inductive Double where
  | nan
  | infinite (negative : Bool)
  | zero (negative : Bool)
  | finite (negative : Bool) (magnitude : Binary)
deriving Repr, DecidableEq, Inhabited

/-- Takes a number apart. -/
def Double.ofFloat (x : Float) : Double :=
  let bits : Nat := x.toBits.toNat
  let negative := decide (Nat.pow 2 63 ≤ bits)
  let field : Nat := bits / Nat.pow 2 52 % Nat.pow 2 11
  let fraction : Nat := bits % Nat.pow 2 52
  if field = 2047 then
    if fraction = 0 then .infinite negative else .nan
  else if field = 0 then
    if fraction = 0 then .zero negative else .finite negative ⟨fraction, -1074, false⟩
  else .finite negative ⟨Nat.pow 2 52 + fraction, (field : Int) - 1075, fraction = 0 && 1 < field⟩

end GitSteward.Decimal
