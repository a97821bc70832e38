-- Whole numbers of 64 bits as they are written: digits, with a plus sign if one likes.
import GitSteward.Decimal.Reading

namespace GitSteward.Decimal

/-- Why a text is not a whole number of 64 bits. -/
inductive WholeError where
  | empty
  | invalidDigit
  | tooLarge
deriving Repr, DecidableEq, Inhabited

def WholeError.message : WholeError → String
  | empty => "cannot parse integer from empty string"
  | invalidDigit => "invalid digit found in string"
  | tooLarge => "number too large to fit in target type"

/-- The number that digits spell after those that make `n`. What comes first decides the error. -/
def readDigits (n : Nat) : List Char → Except WholeError Nat
  | [] => .ok n
  | c :: rest =>
    if !c.isDigit then .error .invalidDigit
    else
      let n := 10 * n + digitValue c
      if Nat.pow 2 64 ≤ n then .error .tooLarge else readDigits n rest

/-- The number that a text spells. -/
def readWhole (cs : List Char) : Except WholeError Nat :=
  match cs with
  | [] => .error .empty
  | ['+'] => .error .invalidDigit
  | '+' :: digits => readDigits 0 digits
  | digits => readDigits 0 digits

end GitSteward.Decimal
