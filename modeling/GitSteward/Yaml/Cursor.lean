-- A place in a YAML text: what is still unread, and the line and column it stands at.
-- A text that holds a character no document may hold is read window by window, and a
-- reader learns of such a character when it first needs the window it stands in.

namespace GitSteward.Yaml

/-- Why a text is not a YAML document. -/
inductive Malformed where
  /-- a character that no document may hold -/
  | character
  /-- a character that starts no token -/
  | indicator
  /-- a simple key whose colon never comes -/
  | missingColon
  /-- an entry, a key or a value where none may stand -/
  | misplaced
  /-- a directive that is not one -/
  | directive
  /-- an anchor or an alias without a name -/
  | anchor
  /-- a tag that is not one -/
  | tag
  /-- a quoted or a block scalar that is not one -/
  | scalar
  /-- tokens in an order that makes no document -/
  | order
  /-- an alias of an anchor that was never set -/
  | unknownAnchor
deriving Repr, DecidableEq, Inhabited

/-- Where something starts: the offset in bytes, the line and the column, all from zero. -/
structure Mark where
  index : Nat := 0
  line : Nat := 0
  column : Nat := 0
deriving Repr, DecidableEq, Inhabited

/-! ## Classes of characters -/

/-- The character that stands for the end of the text. No document holds it. -/
def atEnd : Char := '\x00'

/-- Whether a character ends a line. -/
def isBreak (c : Char) : Bool :=
  c = '\r' || c = '\n' || c = '\u0085' || c = '\u2028' || c = '\u2029'

/-- Whether a character is a space or a tab. -/
def isBlank (c : Char) : Bool := c = ' ' || c = '\t'

/-- Whether a character ends a line or the text. -/
def isBreakOrEnd (c : Char) : Bool := isBreak c || c = atEnd

/-- Whether a character ends a word: a blank, a line break or the end of the text. -/
def isBlankOrEnd (c : Char) : Bool := isBlank c || isBreakOrEnd c

/-- Whether a character may stand in the name of an anchor, a tag handle or a directive. -/
def isNameChar (c : Char) : Bool := c.isAlphanum || c = '_' || c = '-'

/-- Whether a document may hold the character. -/
def isReadable (c : Char) : Bool :=
  let n := c.toNat
  n = 0x09 || n = 0x0A || n = 0x0D || (0x20 ≤ n && n ≤ 0x7E) || n = 0x85 ||
    (0xA0 ≤ n && n ≤ 0xD7FF) || (0xE000 ≤ n && n ≤ 0xFFFD) ||
    (0x10000 ≤ n && n ≤ 0x10FFFF)

/-! ## The readable part of a text -/

/-- Bytes that are read at a time. -/
def windowSize : Nat := 16384

/-- The characters of one window of `room` bytes, and what follows it. A character that
does not fit as a whole begins the next window. -/
def takeWindow : Nat → List Char → List Char × List Char
  | _, [] => ([], [])
  | room, c :: cs =>
    if c.utf8Size ≤ room then
      let (window, rest) := takeWindow (room - c.utf8Size) cs
      (c :: window, rest)
    else ([], c :: cs)

/-- The text up to the first window that holds an unreadable character, and whether there
is no such window. The first argument bounds the number of windows. -/
def readableWindows : Nat → List Char → List Char × Bool
  | 0, _ => ([], true)
  | n + 1, cs =>
    match takeWindow windowSize cs with
    | ([], _) => ([], true)
    | (window, rest) =>
      if window.all isReadable then
        let (more, whole) := readableWindows n rest
        (window ++ more, whole)
      else ([], false)

/-! ## The cursor -/

/-- A place in a text. When `whole` is false, an unreadable window follows `rest`. -/
structure Cursor where
  rest : List Char
  mark : Mark := {}
  whole : Bool := true
deriving Repr, Inhabited

namespace Cursor

/-- The start of a text. -/
def ofText (text : String) : Cursor :=
  let windows := text.utf8ByteSize / (windowSize - 4) + 1
  let (rest, whole) := readableWindows windows text.toList
  ⟨rest, {}, whole⟩

/-- The next character, or the end. -/
def peek (c : Cursor) : Char := c.rest.headD atEnd

/-- The character `k` places on, or the end. -/
def peekAt (c : Cursor) (k : Nat) : Char := (c.rest.drop k).headD atEnd

/-- The column of the next character. -/
def column (c : Cursor) : Nat := c.mark.column

/-- Fails when fewer than `n` characters are left before an unreadable window. -/
def need (c : Cursor) (n : Nat) : Except Malformed Unit :=
  if c.whole || !(c.rest.drop (n - 1)).isEmpty then .ok () else .error .character

/-- The place after the next character, which is no line break. -/
def skip (c : Cursor) : Cursor :=
  match c.rest with
  | [] => c
  | ch :: rest =>
    { c with
      rest := rest
      mark := { c.mark with index := c.mark.index + ch.utf8Size, column := c.mark.column + 1 } }

/-- The place `n` characters on, none of which is a line break. -/
def skipN (c : Cursor) : Nat → Cursor
  | 0 => c
  | n + 1 => c.skip.skipN n

/-- The place after the line break that comes next, if one does. -/
def skipLine (c : Cursor) : Cursor :=
  let next (width : Nat) (rest : List Char) : Cursor :=
    { c with rest := rest, mark := ⟨c.mark.index + width, c.mark.line + 1, 0⟩ }
  match c.rest with
  | '\r' :: '\n' :: rest => next 2 rest
  | ch :: rest => if isBreak ch then next ch.utf8Size rest else c
  | [] => c

/-- The text that the line break that comes next stands for: LF for any break of ASCII
and for NEL, and itself for the other two. -/
def breakText (c : Cursor) : List Char :=
  match c.rest with
  | ch :: _ =>
    if ch = '\u2028' || ch = '\u2029' then [ch]
    else if isBreak ch then ['\n'] else []
  | [] => []

/-- The longest run of characters in `p`, and the place after it. No character of `p` is a
line break or the end. -/
def span (p : Char → Bool) (c : Cursor) : Except Malformed (List Char × Cursor) :=
  let rec go : List Char → List Char → Mark → List Char × List Char × Mark
    | [], taken, m => (taken.reverse, [], m)
    | ch :: rest, taken, m =>
      if p ch then
        go rest (ch :: taken) { m with index := m.index + ch.utf8Size, column := m.column + 1 }
      else (taken.reverse, ch :: rest, m)
  let (taken, rest, m) := go c.rest [] c.mark
  if rest.isEmpty && !c.whole then .error .character
  else .ok (taken, { c with rest := rest, mark := m })

/-- The place after the longest run of characters in `p`. -/
def skipWhile (p : Char → Bool) (c : Cursor) : Except Malformed Cursor :=
  (c.span p).map (·.2)

/-- The place after a byte order mark that starts a line. The mark counts as a column. -/
def skipByteOrderMark (c : Cursor) : Cursor :=
  if c.column = 0 && c.peek = '\uFEFF' then c.skip else c

/-- The place at the end of the line when a comment starts here, else this place. -/
def skipComment (c : Cursor) : Except Malformed Cursor :=
  if c.peek = '#' then c.skipWhile (!isBreakOrEnd ·) else .ok c

/-- Whether a document marker, three times `ch` and a blank or an end, stands here at the
start of a line. -/
def atMarker (c : Cursor) (ch : Char) : Bool :=
  c.column = 0 && c.peek = ch && c.peekAt 1 = ch && c.peekAt 2 = ch && isBlankOrEnd (c.peekAt 3)

/-- Whether either document marker stands here. -/
def atDocumentMarker (c : Cursor) : Bool := c.atMarker '-' || c.atMarker '.'

end Cursor

end GitSteward.Yaml
