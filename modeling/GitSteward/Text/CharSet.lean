-- Sets of characters given by the places where their runs start and stop.

namespace GitSteward.Text

/-- A set of characters: the first code point of each run in it and the first one after the
run, in increasing order. -/
abbrev CharSet := List Nat

/-- Whether a character is in the set. -/
def CharSet.has (set : CharSet) (c : Char) : Bool :=
  (set.takeWhile (· ≤ c.toNat)).length % 2 = 1

/-- The characters of Unicode that count as white space. -/
def whiteSpace : CharSet := [
  0x9, 0xE, 0x20, 0x21, 0x85, 0x86, 0xA0, 0xA1, 0x1680, 0x1681, 0x2000, 0x200B, 0x2028, 0x202A,
  0x202F, 0x2030, 0x205F, 0x2060, 0x3000, 0x3001]

/-- Whether a character is white space. -/
def isBlank (c : Char) : Bool := whiteSpace.has c

/-- A text without the white space at its end. -/
def trimEnd (s : String) : String :=
  String.ofList (s.toList.reverse.dropWhile isBlank).reverse

end GitSteward.Text
