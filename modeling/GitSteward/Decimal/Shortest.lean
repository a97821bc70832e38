-- The shortest decimal that reads back as a given binary number: of all decimals with the
-- fewest digits in the interval of reals that round to the number, the one nearest to it.

import GitSteward.Decimal.Double

namespace GitSteward.Decimal

/-- A positive number `num / den` and the interval around it, whose ends are `low / den` and
`high / den` and count as in it when `closed` is set. -/
structure Rounding where
  num : Nat
  den : Nat
  low : Nat
  high : Nat
  closed : Bool
deriving Repr, Inhabited

/-- The interval of the reals that round to `m * 2 ^ q`, ties going to the even significand.
`boundary` tells that the next number below is half as far as the next one above. -/
def Rounding.ofBinary (m : Nat) (q : Int) (boundary : Bool) : Rounding :=
  let up := Nat.pow 2 (q - 2).toNat
  let closed := m % 2 = 0
  let low := 4 * m - (if boundary then 1 else 2)
  ⟨4 * m * up, Nat.pow 2 (2 - q).toNat, low * up, (4 * m + 2) * up, closed⟩

/-- Whether `n * 10 ^ e` lies in the interval. -/
def Rounding.holds (r : Rounding) (n : Nat) (e : Int) : Bool :=
  let x := n * Nat.pow 10 e.toNat * r.den
  let scale := Nat.pow 10 (-e).toNat
  if r.closed then decide (r.low * scale ≤ x ∧ x ≤ r.high * scale)
  else decide (r.low * scale < x ∧ x < r.high * scale)

/-- The least `j` at most `fuel` with `den ≤ num * 10 ^ j`. -/
def leadingZeros (num den : Nat) : Nat → Nat → Nat
  | 0, j => j
  | fuel + 1, j => if den ≤ num then j else leadingZeros (num * 10) den fuel (j + 1)

/-- The exponent `k` for which the number is at least `10 ^ (k - 1)` and less than `10 ^ k`. -/
def Rounding.magnitude (r : Rounding) : Int :=
  if r.den ≤ r.num then (Nat.toDigits 10 (r.num / r.den)).length
  else 1 - (leadingZeros r.num r.den 400 0 : Int)

/-- The better of the two neighbours of the number on the grid of step `10 ^ e`, if one of
them lies in the interval. An exact tie goes up. -/
def Rounding.onGrid (r : Rounding) (e : Int) : Option Denary :=
  let num := r.num * Nat.pow 10 (-e).toNat
  let den := r.den * Nat.pow 10 e.toNat
  let below := num / den
  let nearBelow := decide (2 * (num - below * den) < den)
  match r.holds below e && below ≠ 0, r.holds (below + 1) e with
  | true, true => some ⟨if nearBelow then below else below + 1, e⟩
  | true, false => some ⟨below, e⟩
  | false, true => some ⟨below + 1, e⟩
  | false, false => none

/-- Tries grids of `n`, `n + 1`, … digits. -/
def Rounding.shortestFrom (r : Rounding) (k : Int) : Nat → Nat → Denary
  | 0, n =>
    let num := r.num * Nat.pow 10 ((n : Int) - k).toNat
    ⟨num / (r.den * Nat.pow 10 (k - (n : Int)).toNat), k - n⟩
  | fuel + 1, n => (r.onGrid (k - n)).getD (r.shortestFrom k fuel (n + 1))

/-- The shortest decimal in the interval. Seventeen digits always suffice. -/
def Rounding.shortest (r : Rounding) : Denary := r.shortestFrom r.magnitude 17 1

/-- A decimal without zeros at its end. -/
def Denary.normalize (d : Denary) : Denary :=
  let zeros : Nat := ((Nat.toDigits 10 d.digits).reverse.takeWhile (· = '0')).length
  if d.digits = 0 then d else ⟨d.digits / Nat.pow 10 zeros, d.exponent + zeros⟩

/-- The shortest decimal that reads back as a number. -/
def Binary.shortest (b : Binary) : Denary :=
  (Rounding.ofBinary b.significand b.exponent b.isBoundary).shortest.normalize

end GitSteward.Decimal
