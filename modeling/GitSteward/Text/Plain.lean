-- Text without what would steer a terminal: control characters other than white space, and
-- the sequences that an escape character starts.

namespace GitSteward.Text

/-- Where a terminal would be in a text. -/
inductive Steering where
  | text
  /-- after an escape character -/
  | escape
  /-- in an escape sequence that goes on to its last character -/
  | sequence
  /-- in a sequence that sets colours or moves about -/
  | control
  /-- in a text for the terminal itself, which a bell ends -/
  | command
  /-- before the data for a device -/
  | device
  /-- in the parameters of that data -/
  | deviceParameters
  /-- after those parameters -/
  | deviceDetail
  /-- in data that another escape character ends, or an octet that ends strings -/
  | data
deriving Repr, DecidableEq, Inhabited

/-- White space that has a meaning in plain text. -/
def isLayout (c : Char) : Bool := c = '\t' || c = '\n' || c = '\x0c' || c = '\x0d'

/-- Whether a character is a control character of ASCII. -/
def isControl (c : Char) : Bool := c.toNat < 0x20 || c = '\x7f'

/-- Whether the octet that ends strings, 9C, is one of those that write the character. -/
def endsString (c : Char) : Bool := (String.singleton c).toUTF8.data.contains 0x9C

namespace Steering

/-- Where an escape character and the one after it lead. -/
def afterEscape (c : Char) : Steering :=
  if c = '[' then control
  else if c = ']' then command
  else if c = 'P' then device
  else if c = 'X' || c = '^' || c = '_' then data
  else if c.toNat < 0x30 then sequence
  else text

/-- Where a character of ASCII leads that is no control character. -/
def afterVisible (s : Steering) (c : Char) : Steering :=
  let n := c.toNat
  match s with
  | text => text
  | escape => afterEscape c
  | sequence => if 0x30 ≤ n then text else sequence
  | control => if 0x40 ≤ n then text else control
  | command => command
  | device =>
    if 0x40 ≤ n then data else if n < 0x30 then deviceDetail else deviceParameters
  | deviceParameters =>
    if 0x3c ≤ n then data else if n < 0x30 then deviceDetail else deviceParameters
  | deviceDetail => if 0x30 ≤ n then data else deviceDetail
  | data => data

/-- Whether white space inside is shown, as that inside a sequence is. -/
def showsLayout : Steering → Bool
  | text | escape | sequence | control => true
  | command | device | deviceParameters | deviceDetail | data => false

/-- Where a control character leads that is not shown. -/
def afterControl (s : Steering) (c : Char) : Steering :=
  if c = '\x1b' then escape
  else if c = '\x18' || c = '\x1a' then text
  else if s = command && c = '\x07' then text
  else s

/-- The characters that are shown. White space inside a sequence puts the sequence off: what
comes after it is text, up to the next control character. -/
def shown (s : Steering) (putOff : Bool) : List Char → List Char
  | [] => []
  | c :: rest =>
    if isControl c then
      if isLayout c && (putOff || s.showsLayout) then c :: shown s true rest
      else shown (s.afterControl c) false rest
    else if putOff || s = text then
      c :: (if c.toNat < 0x80 then shown s putOff rest else shown text false rest)
    else if c.toNat < 0x80 then shown (s.afterVisible c) false rest
    else shown (if s = data && endsString c then text else s) false rest

end Steering

/-- A text without what would steer a terminal. -/
def plain (s : String) : String := String.ofList (Steering.text.shown false s.toList)

end GitSteward.Text
