-- Reading decimals: digits with a point and an exponent, to the nearest number of double
-- precision.
import GitSteward.Decimal.Shortest

namespace GitSteward.Decimal

/-- The value of a digit. -/
def digitValue (c : Char) : Nat := c.toNat - '0'.toNat

/-- The number that decimal digits spell. -/
def ofDigits (cs : List Char) : Nat := cs.foldl (fun n c => n * 10 + digitValue c) 0

/-- An exponent: a sign that may be left out, and digits. -/
def readExponent : List Char → Option Int
  | '-' :: cs => if cs.isEmpty || !cs.all Char.isDigit then none else some (-(ofDigits cs : Int))
  | '+' :: cs => if cs.isEmpty || !cs.all Char.isDigit then none else some (ofDigits cs)
  | cs => if cs.isEmpty || !cs.all Char.isDigit then none else some (ofDigits cs)

/-- A decimal without a sign. The point and the exponent may be left out, and so may the
digits on one side of the point. -/
def readMagnitude (cs : List Char) : Option Denary :=
  let whole := cs.takeWhile Char.isDigit
  let rest := cs.dropWhile Char.isDigit
  let (places, rest) := match rest with
    | '.' :: rest => (rest.takeWhile Char.isDigit, rest.dropWhile Char.isDigit)
    | rest => ([], rest)
  if whole.isEmpty && places.isEmpty then none
  else
    let power := match rest with
      | [] => some 0
      | e :: rest => if e = 'e' || e = 'E' then readExponent rest else none
    power.map fun power => ⟨ofDigits (whole ++ places), power - places.length⟩

/-- The number of double precision nearest to a decimal. Exponents far out of range are not
worked out. -/
def Denary.toFloat (d : Denary) : Float :=
  let magnitude := d.exponent + (Nat.toDigits 10 d.digits).length
  if d.digits = 0 || magnitude < -400 then 0.0
  else if magnitude > 400 then 1.0 / 0.0
  else Float.ofScientific d.digits (decide (d.exponent < 0)) d.exponent.natAbs

/-- A decimal with a sign that may be left out, if it is in range. -/
def readFinite? (cs : List Char) : Option Float :=
  let (negative, body) := match cs with
    | '-' :: cs => (true, cs)
    | '+' :: cs => (false, cs)
    | cs => (false, cs)
  (readMagnitude body).bind fun d =>
    let x := if negative then -d.toFloat else d.toFloat
    if x.isFinite then some x else none

end GitSteward.Decimal
