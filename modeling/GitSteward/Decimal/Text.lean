-- How numbers are written out.
import GitSteward.Decimal.Grisu
import GitSteward.Decimal.Shortest

namespace GitSteward.Decimal

/-- The digits of a number. -/
def digitChars (n : Nat) : List Char := Nat.toDigits 10 n

/-- So many zeros. -/
def zeros (n : Nat) : List Char := List.replicate n '0'

/-- A decimal written without an exponent, with at least one place after the point. -/
def Denary.positional (d : Denary) : List Char :=
  let digits := digitChars d.digits
  if 0 ≤ d.exponent then digits ++ zeros d.exponent.toNat ++ ['.', '0']
  else
    let places := (-d.exponent).toNat
    if places < digits.length then
      let whole := digits.length - places
      digits.take whole ++ '.' :: digits.drop whole
    else '0' :: '.' :: zeros (places - digits.length) ++ digits

/-- A decimal written with one digit before the point and an exponent. -/
def Denary.scientific (d : Denary) : List Char :=
  let digits := digitChars d.digits
  let e := d.exponent + digits.length - 1
  let power := 'e' :: (toString e).toList
  match digits with
  | [] => power
  | first :: [] => first :: power
  | first :: rest => first :: '.' :: rest ++ power

/-- A number written with a sign if it is negative, its magnitude as the rule tells. -/
def Double.written (magnitude : Binary → List Char) : Double → String
  | .nan => "NaN"
  | .infinite negative => if negative then "-inf" else "inf"
  | .zero negative => if negative then "-0.0" else "0.0"
  | .finite negative b =>
    String.ofList ((if negative then ['-'] else []) ++ magnitude b)

/-- A number in a message: the shortest decimal, with all its places and never an exponent. -/
def Double.plainText : Double → String := written fun b => b.shortest.positional

/-- A number in a list of metrics. Numbers below 10^21 and from 10^-6 on are positional. -/
def Double.metricText : Double → String :=
  written fun b =>
    let d := b.grisu
    let magnitude := d.exponent + (digitChars d.digits).length
    if -6 < magnitude && magnitude ≤ 21 then d.positional else d.scientific

end GitSteward.Decimal
