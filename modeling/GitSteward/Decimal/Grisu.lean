-- Short decimals by arithmetic on 64 bits. The ends of the interval of reals that round to a
-- number are scaled by a power of ten, each product rounded to 64 bits, and drawn in by one
-- unit on account of that. Digits are taken from the upper end until what is left fits into the
-- interval; then the last digit is lowered while that comes nearer to the number. Of very long
-- decimals the last digit is left as it is.
import GitSteward.Decimal.Double

namespace GitSteward.Decimal

/-- A number `f * 2 ^ e`. -/
structure Scaled where
  f : Nat
  e : Int
deriving Repr, DecidableEq, Inhabited

namespace Scaled

/-- The same number with a significand of 64 bits. -/
def normalize (x : Scaled) : Scaled :=
  let shift : Nat := 63 - x.f.log2
  ⟨x.f * Nat.pow 2 shift, x.e - shift⟩

/-- The product, its significand rounded to the upper 64 bits. -/
def mul (x y : Scaled) : Scaled := ⟨(x.f * y.f + Nat.pow 2 63) / Nat.pow 2 64, x.e + y.e + 64⟩

/-- A power of ten, its significand rounded to 64 bits. -/
def powerOfTen (k : Int) : Scaled :=
  if 0 ≤ k then
    let n := Nat.pow 10 k.toNat
    if n.log2 ≤ 63 then ({ f := n, e := 0 } : Scaled).normalize
    else
      let shift : Nat := n.log2 - 63
      ⟨(n + Nat.pow 2 (shift - 1)) / Nat.pow 2 shift, shift⟩
  else
    let n := Nat.pow 10 (-k).toNat
    let shift : Nat := n.log2 + 64
    ⟨(2 * Nat.pow 2 shift + n) / (2 * n), -shift⟩

end Scaled

/-- The decimal exponent of the power by which numbers of binary exponent `e` are scaled. These
are multiples of eight, counted from -348 on. -/
def scalingExponent (e : Int) : Int :=
  let estimate := Float.ofInt (-61 - e) * 0.30102999566398114 + 347.0
  let k : Nat := estimate.ceil.toUInt64.toNat
  8 * (k / 8 + 1 : Nat) - 348

/-- Lowers the last digit while the rest stays inside the interval and comes nearer to the
number. -/
def lowerLast (digits delta rest unit target : Nat) : Nat → Nat
  | 0 => digits
  | fuel + 1 =>
    if rest < target && unit ≤ delta - rest &&
        (rest + unit < target || rest + unit - target < target - rest) then
      lowerLast (digits - 1) delta (rest + unit) unit target fuel
    else digits

/-- Takes the digits of the whole part, `places` of which are left. The result is the digits
and their exponent, if the interval is reached. -/
def wholeDigits (fraction one delta target digits whole : Nat) : Nat → Option (Nat × Nat)
  | 0 => none
  | places + 1 =>
    let power := Nat.pow 10 places
    let digits := 10 * digits + whole / power
    let rest := whole % power * one + fraction
    if rest ≤ delta then some (lowerLast digits delta rest (power * one) target 9, places)
    else wholeDigits fraction one delta target digits (whole % power) places

/-- Takes digits after the point, of which there are `places` already. -/
def fractionDigits (fraction one delta target digits places : Nat) : Nat → Nat × Nat
  | 0 => (digits, places)
  | fuel + 1 =>
    let digits := 10 * digits + 10 * fraction / one
    let fraction := 10 * fraction % one
    let delta := 10 * delta
    let places := places + 1
    if fraction < delta then
      let target := if places < 9 then target * Nat.pow 10 places else 0
      (lowerLast digits delta fraction one target 9, places)
    else
      fractionDigits fraction one delta target digits places fuel

/-- A short decimal of a number. -/
def Binary.grisu (b : Binary) : Denary :=
  let m := b.significand
  let q := b.exponent
  let upper := (Scaled.mk (2 * m + 1) (q - 1)).normalize
  let below : Scaled := if b.isBoundary then ⟨4 * m - 1, q - 2⟩ else ⟨2 * m - 1, q - 1⟩
  let lower : Scaled := ⟨below.f * Nat.pow 2 (below.e - upper.e).toNat, upper.e⟩
  let k := scalingExponent upper.e
  let power := Scaled.powerOfTen k
  let number := (Scaled.mk m q).normalize.mul power
  let high := (upper.mul power).f - 1
  let low := (lower.mul power).f + 1
  let one := Nat.pow 2 (-number.e).toNat
  let delta := high - low
  let target := high - number.f
  let whole := high / one
  let places := (Nat.toDigits 10 whole).length
  match wholeDigits (high % one) one delta target 0 whole places with
  | some (digits, exponent) => ⟨digits, exponent - k⟩
  | none =>
    let (digits, places) := fractionDigits (high % one) one delta target whole 0 20
    ⟨digits, -(places : Int) - k⟩

end GitSteward.Decimal
