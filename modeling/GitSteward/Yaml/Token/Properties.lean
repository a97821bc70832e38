-- Directives, anchors, aliases and tags.
import GitSteward.Yaml.Token

namespace GitSteward.Yaml

/-! ## Tags -/

/-- The value of a hexadecimal digit. -/
def hexDigit? (c : Char) : Option Nat :=
  if '0' ≤ c ∧ c ≤ '9' then some (c.toNat - '0'.toNat)
  else if 'a' ≤ c ∧ c ≤ 'f' then some (c.toNat - 'a'.toNat + 10)
  else if 'A' ≤ c ∧ c ≤ 'F' then some (c.toNat - 'A'.toNat + 10)
  else none

/-- How many octets the character has that begins with this one. -/
def leadingOctetLength? (octet : Nat) : Option Nat :=
  if octet < 0x80 then some 1
  else if octet / 0x20 = 0b110 then some 2
  else if octet / 0x10 = 0b1110 then some 3
  else if octet / 0x08 = 0b11110 then some 4
  else none

/-- One octet, written as a percent sign and two hexadecimal digits. -/
def scanEscapedOctet (c : Cursor) : Except Malformed (Nat × Cursor) := do
  c.need 3
  match c.peek, hexDigit? (c.peekAt 1), hexDigit? (c.peekAt 2) with
  | '%', some high, some low => .ok (high * 16 + low, c.skipN 3)
  | _, _, _ => .error .tag

/-- `n` octets that continue a character. -/
def scanTrailingOctets : Nat → Cursor → Except Malformed (TagBytes × Cursor)
  | 0, c => .ok ([], c)
  | n + 1, c => do
    let (octet, c) ← scanEscapedOctet c
    if octet / 0x40 ≠ 0b10 then throw .tag
    let (more, c) ← scanTrailingOctets n c
    return (octet.toUInt8 :: more, c)

/-- The escaped octets of one character. -/
def scanEscapedChar (c : Cursor) : Except Malformed (TagBytes × Cursor) := do
  let (octet, c) ← scanEscapedOctet c
  match leadingOctetLength? octet with
  | none => throw .tag
  | some n =>
    let (more, c) ← scanTrailingOctets (n - 1) c
    return (octet.toUInt8 :: more, c)

/-- Whether a character may stand in a tag. Brackets and commas may inside a verbatim tag
and in a directive alone. -/
def isTagChar (verbatim : Bool) (c : Char) : Bool :=
  isNameChar c || ";/?:@&=+$.%!~*'()".toList.contains c ||
    (verbatim && (c = ',' || c = '[' || c = ']'))

/-- The characters of a tag, with their escapes resolved. The first argument bounds their
number. -/
def scanTagChars (verbatim : Bool) : Nat → Cursor → Except Malformed (TagBytes × Cursor)
  | 0, c => .ok ([], c)
  | fuel + 1, c => do
    c.need 1
    if !isTagChar verbatim c.peek then return ([], c)
    let (bytes, c) ← if c.peek = '%' then scanEscapedChar c
      else .ok ((String.singleton c.peek).toUTF8.data.toList, c.skip)
    let (more, c) ← scanTagChars verbatim fuel c
    return (bytes ++ more, c)

/-- The characters of a tag after `head`, whose exclamation mark is dropped. An empty tag
is refused, unless there is a head. What is written from an escaped NUL on is part of no
tag. -/
def scanTagUri (verbatim : Bool) (head : TagBytes) (c : Cursor) :
    Except Malformed (TagBytes × Cursor) := do
  let (bytes, c) ← scanTagChars verbatim (c.rest.length + 1) c
  if head.isEmpty && bytes.isEmpty then throw .tag
  return (head.drop 1 ++ bytes.takeWhile (· ≠ 0), c)

/-- A tag handle: an exclamation mark, a name that may be empty, and the exclamation mark
that closes it if there is one. A directive needs a closed handle or a lone mark. -/
def scanTagHandle (directive : Bool) (c : Cursor) : Except Malformed (TagBytes × Cursor) := do
  c.need 1
  if c.peek ≠ '!' then throw .tag
  let (name, c) ← c.skip.span isNameChar
  let handle := '!' :: name
  if c.peek = '!' then
    return (tagBytes (String.ofList (handle ++ ['!'])), c.skip)
  if directive && !name.isEmpty then throw .tag
  return (tagBytes (String.ofList handle), c)

/-- The handle and the suffix of a tag, which is verbatim, has a handle of its own, or has
the primary handle. A lone exclamation mark is a suffix without a handle. -/
def scanTagParts (c : Cursor) : Except Malformed ((TagBytes × TagBytes) × Cursor) := do
  let bang := tagBytes "!"
  if c.peekAt 1 = '<' then
    let (suffix, c) ← scanTagUri true [] (c.skipN 2)
    if c.peek ≠ '>' then throw .tag
    return (([], suffix), c.skip)
  let (handle, c) ← scanTagHandle false c
  if handle.length > 1 && handle.getLast? = bang.head? then
    let (suffix, c) ← scanTagUri false [] c
    return ((handle, suffix), c)
  let (suffix, c) ← scanTagUri false handle c
  return (if suffix.isEmpty then ([], bang) else (bang, suffix), c)

/-- A tag. `inFlow` tells that a comma may follow it. -/
def scanTag (inFlow : Bool) (c : Cursor) : Except Malformed (Token × Cursor) := do
  let start := c.mark
  c.need 2
  let ((handle, suffix), c) ← scanTagParts c
  c.need 1
  if !isBlankOrEnd c.peek && !(inFlow && c.peek = ',') then throw .tag
  return (⟨.tag handle suffix, start, c.mark⟩, c)

/-! ## Anchors and aliases -/

/-- Whether a character may follow the name of an anchor. -/
def endsAnchor (c : Char) : Bool :=
  isBlankOrEnd c || "?:,]\x7d%@".toList.contains c || c = '\x60'

/-- An anchor or an alias: a mark, a name, and a blank or one of a few indicators. -/
def scanAnchor (isAlias : Bool) (c : Cursor) : Except Malformed (Token × Cursor) := do
  let start := c.mark
  let (name, c) ← c.skip.span isNameChar
  if name.isEmpty || !endsAnchor c.peek then throw .anchor
  let name := String.ofList name
  return (⟨if isAlias then .alias name else .anchor name, start, c.mark⟩, c)

/-! ## Directives -/

/-- A number of a version, of at most nine digits. -/
def scanVersionNumber (c : Cursor) : Except Malformed (Nat × Cursor) := do
  let (digits, c) ← c.span Char.isDigit
  if digits.isEmpty || digits.length > 9 then throw .directive
  return (digits.foldl (fun n d => n * 10 + (d.toNat - '0'.toNat)) 0, c)

/-- The version that a directive names. -/
def scanVersion (c : Cursor) : Except Malformed (TokenKind × Cursor) := do
  let c ← c.skipWhile isBlank
  let (major, c) ← scanVersionNumber c
  if c.peek ≠ '.' then throw .directive
  let (minor, c) ← scanVersionNumber c.skip
  return (.versionDirective major minor, c)

/-- The handle that a directive sets and what it stands for. -/
def scanTagShorthand (c : Cursor) : Except Malformed (TokenKind × Cursor) := do
  let c ← c.skipWhile isBlank
  let (handle, c) ← scanTagHandle true c
  if !isBlank c.peek then throw .directive
  let c ← c.skipWhile isBlank
  let (expansion, c) ← scanTagUri true [] c
  if !isBlankOrEnd c.peek then throw .directive
  return (.tagDirective handle expansion, c)

/-- A directive and the rest of its line. -/
def scanDirective (c : Cursor) : Except Malformed (Token × Cursor) := do
  let start := c.mark
  let (name, c) ← c.skip.span isNameChar
  if name.isEmpty || !isBlankOrEnd c.peek then throw .directive
  let (kind, c) ← (match String.ofList name with
    | "YAML" => scanVersion c
    | "TAG" => scanTagShorthand c
    | _ => .error .directive)
  let stop := c.mark
  let c ← c.skipWhile isBlank
  let c ← c.skipComment
  if !isBreakOrEnd c.peek then throw .directive
  c.need 2
  return (⟨kind, start, stop⟩, c.skipLine)

end GitSteward.Yaml
