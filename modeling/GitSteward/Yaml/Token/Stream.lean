-- The token stream of a text. A key needs no mark of its own in YAML, so a token that may
-- begin a key is held back until the colon after it comes or can no longer come. Columns
-- open and close the block collections.
import GitSteward.Yaml.Token.Scalars

namespace GitSteward.Yaml

/-- A token that may turn out to be a key: its number in the stream and its place. Where
`required` is set, the text makes no sense unless it is one. -/
structure PendingKey where
  required : Bool
  number : Nat
  mark : Mark
deriving Repr, Inhabited

/-- The state between two tokens. -/
structure Tokenizer where
  cursor : Cursor
  /-- tokens that are held back, first to last -/
  queue : List Token := []
  /-- how many tokens have been given out -/
  given : Nat := 0
  /-- the column of the innermost block collection, or -1 -/
  indent : Int := -1
  /-- the columns of the block collections around it, innermost first -/
  outer : List Int := []
  /-- how many flow collections are open -/
  depth : Nat := 0
  /-- the pending key of each open flow collection and of the block context, innermost first -/
  keys : List (Option PendingKey) := [none]
  /-- whether a key may start here -/
  keyAllowed : Bool := true
deriving Inhabited

namespace Tokenizer

/-- A key may be this many bytes long, and no more than a line. -/
def keyLimit : Nat := 1024

variable (t : Tokenizer)

def mark : Mark := t.cursor.mark

/-- Adds tokens to the end of the queue. -/
def enqueue (tokens : List Token) : Tokenizer := { t with queue := t.queue ++ tokens }

/-- Adds a token of `n` characters that starts here, and goes past it. -/
def push (kind : TokenKind) (n : Nat) : Tokenizer :=
  let next := t.cursor.skipN n
  { t with cursor := next, queue := t.queue ++ [⟨kind, t.mark, next.mark⟩] }

/-! ## Pending keys -/

/-- Gives up a pending key. One that is required is missed. -/
def giveUp : Option PendingKey → Except Malformed Unit
  | some key => if key.required then .error .missingColon else .ok ()
  | none => .ok ()

/-- Gives up the innermost pending key. -/
def dropKey : Except Malformed Tokenizer := do
  giveUp (t.keys.headD none)
  return { t with keys := none :: t.keys.drop 1 }

/-- Whether a pending key is too far back for its colon to come. -/
def isStale (key : PendingKey) : Bool :=
  key.mark.line < t.mark.line || key.mark.index + keyLimit < t.mark.index

/-- Gives up the pending keys that are too far back. -/
def dropStaleKeys : Except Malformed Tokenizer := do
  let keys ← t.keys.mapM fun key =>
    match key with
    | some k => if t.isStale k then (giveUp key).map fun _ => none else .ok key
    | none => .ok none
  return { t with keys := keys }

/-- Notes that a key may start here, if one is allowed. -/
def noteKey : Except Malformed Tokenizer := do
  if t.keyAllowed then
    let required := t.depth = 0 && t.indent = (t.cursor.column : Int)
    let key : PendingKey := ⟨required, t.given + t.queue.length, t.mark⟩
    let t ← t.dropKey
    return { t with keys := some key :: t.keys.drop 1 }
  else return t

/-- Whether the first token that is held back may turn out to be a key. -/
def headMayBeKey : Bool :=
  t.keys.any fun key => match key with
    | some k => k.number = t.given
    | none => false

/-! ## Indentation -/

/-- Opens a block collection at a column to the right of the innermost one. The token that
opens it comes before the token of the given number, or last. -/
def openBlock (column : Nat) (number : Option Nat) (kind : TokenKind) (mark : Mark) : Tokenizer :=
  if t.depth = 0 && t.indent < (column : Int) then
    let token : Token := ⟨kind, mark, mark⟩
    let queue := match number with
      | some n => t.queue.insertIdx (n - t.given) token
      | none => t.queue ++ [token]
    { t with queue := queue, indent := column, outer := t.indent :: t.outer }
  else t

/-- Closes the block collections to the right of a column. -/
def closeBlocks (column : Int) : Tokenizer :=
  if t.depth > 0 then t
  else
    let rec go (indent : Int) : List Int → List Token → Int × List Int × List Token
      | [], ends => (indent, [], ends)
      | next :: outer, ends =>
        if indent > column then go next outer (⟨.blockEnd, t.mark, t.mark⟩ :: ends)
        else (indent, next :: outer, ends)
    let (indent, outer, ends) := go t.indent t.outer []
    { t with indent := indent, outer := outer, queue := t.queue ++ ends }

/-! ## The next token -/

/-- Blanks, comments and line breaks before a token, and a byte order mark at the start of
each line. A line break outside flow collections allows a key. Where a key is allowed, a tab
may not stand outside them. -/
def skipToToken : Nat → Tokenizer → Except Malformed Tokenizer
  | 0, t => .ok t
  | fuel + 1, t => do
    let tab := t.depth > 0 || !t.keyAllowed
    let c ← t.cursor.skipByteOrderMark.skipWhile (fun ch => ch = ' ' || (tab && ch = '\t'))
    let c ← c.skipComment
    if isBreak c.peek then
      c.need 2
      let keyAllowed := t.keyAllowed || t.depth = 0
      skipToToken fuel { t with cursor := c.skipLine, keyAllowed := keyAllowed }
    else return { t with cursor := c }

/-- The end of the text, which closes all that is open. -/
def fetchEnd : Except Malformed Tokenizer := do
  let m := t.mark
  let m : Mark := if m.column = 0 then m else { m with line := m.line + 1, column := 0 }
  let t := { t with cursor := { t.cursor with mark := m } }
  let t ← (t.closeBlocks (-1)).dropKey
  return { t with keyAllowed := false }.push .streamEnd 0

/-- A directive. -/
def fetchDirective : Except Malformed Tokenizer := do
  let t ← (t.closeBlocks (-1)).dropKey
  let (token, c) ← scanDirective t.cursor
  return { t with keyAllowed := false, cursor := c }.enqueue [token]

/-- A marker of the start or the end of a document. -/
def fetchDocumentMarker (kind : TokenKind) : Except Malformed Tokenizer := do
  let t ← (t.closeBlocks (-1)).dropKey
  return { t with keyAllowed := false }.push kind 3

/-- A bracket that opens a flow collection, which may be a key itself. -/
def fetchOpening (kind : TokenKind) : Except Malformed Tokenizer := do
  let t ← t.noteKey
  return { t with keyAllowed := true, depth := t.depth + 1, keys := none :: t.keys }.push kind 1

/-- A bracket that closes a flow collection. -/
def fetchClosing (kind : TokenKind) : Except Malformed Tokenizer := do
  let t ← t.dropKey
  let t := if t.depth = 0 then t else { t with depth := t.depth - 1, keys := t.keys.drop 1 }
  return { t with keyAllowed := false }.push kind 1

/-- A comma between entries of a flow collection. -/
def fetchComma : Except Malformed Tokenizer := do
  let t ← t.dropKey
  return { t with keyAllowed := true }.push .flowEntry 1

/-- A dash before an entry of a block sequence. -/
def fetchBlockEntry : Except Malformed Tokenizer := do
  if t.depth = 0 && !t.keyAllowed then throw .misplaced
  let t ← (t.openBlock t.cursor.column none .blockSequenceStart t.mark).dropKey
  return { t with keyAllowed := true }.push .blockEntry 1

/-- A question mark before a key. -/
def fetchKey : Except Malformed Tokenizer := do
  if t.depth = 0 && !t.keyAllowed then throw .misplaced
  let t ← (t.openBlock t.cursor.column none .blockMappingStart t.mark).dropKey
  return { t with keyAllowed := t.depth = 0 }.push .key 1

/-- A colon before a value. The key before it is the pending one, or else it was marked or
is empty. -/
def fetchValue : Except Malformed Tokenizer := do
  match t.keys.headD none with
  | some key =>
    let queue := t.queue.insertIdx (key.number - t.given) ⟨.key, key.mark, key.mark⟩
    let t := { t with queue := queue }
    let t := t.openBlock key.mark.column (some key.number) .blockMappingStart key.mark
    return { t with keys := none :: t.keys.drop 1, keyAllowed := false }.push .value 1
  | none =>
    if t.depth = 0 && !t.keyAllowed then throw .misplaced
    let t := t.openBlock t.cursor.column none .blockMappingStart t.mark
    return { t with keyAllowed := t.depth = 0 }.push .value 1

/-- A node property or a quoted scalar, which may begin a key. -/
def fetchNode (scan : Cursor → Except Malformed (Token × Cursor)) :
    Except Malformed Tokenizer := do
  let t ← t.noteKey
  let (token, c) ← scan t.cursor
  return { t with keyAllowed := false, cursor := c }.enqueue [token]

/-- A block scalar, which is no key. -/
def fetchBlockScalar (folded : Bool) : Except Malformed Tokenizer := do
  let t ← t.dropKey
  let (token, c) ← scanBlockScalar folded t.indent t.cursor
  return { t with keyAllowed := true, cursor := c }.enqueue [token]

/-- A plain scalar, which may begin a key. A line break after it allows another. -/
def fetchPlainScalar : Except Malformed Tokenizer := do
  let t ← t.noteKey
  let (token, broken, c) ← scanPlainScalar (t.depth > 0) t.indent t.cursor
  return { t with keyAllowed := broken, cursor := c }.enqueue [token]

/-- Whether a plain scalar starts with `ch` before `next`. -/
def startsPlain (inFlow : Bool) (ch next : Char) : Bool :=
  !(isBlankOrEnd ch || "-?:,[]\x7b\x7d#&*!|>'\"%@\x60".toList.contains ch) ||
    (ch = '-' && !isBlank next) ||
    (!inFlow && (ch = '?' || ch = ':') && !isBlankOrEnd next)

/-- The tokens that the next characters make. -/
def fetch : Except Malformed Tokenizer := do
  let t ← t.skipToToken (t.cursor.rest.length + 1)
  let t ← t.dropStaleKeys
  let t := t.closeBlocks t.cursor.column
  let c := t.cursor
  c.need 4
  let inFlow : Bool := t.depth > 0
  let next := c.peekAt 1
  let single : Bool := isBlankOrEnd next
  if c.peek = atEnd then return ← t.fetchEnd
  if c.column = 0 && c.peek = '%' then return ← t.fetchDirective
  if c.atMarker '-' then return ← t.fetchDocumentMarker .documentStart
  if c.atMarker '.' then return ← t.fetchDocumentMarker .documentEnd
  if c.peek = '-' && single then return ← t.fetchBlockEntry
  if c.peek = '?' && (inFlow || single) then return ← t.fetchKey
  if c.peek = ':' && (inFlow || single) then return ← t.fetchValue
  if (c.peek = '|' || c.peek = '>') && !inFlow then return ← t.fetchBlockScalar (c.peek = '>')
  match c.peek with
  | '[' => t.fetchOpening .flowSequenceStart
  | '\x7b' => t.fetchOpening .flowMappingStart
  | ']' => t.fetchClosing .flowSequenceEnd
  | '\x7d' => t.fetchClosing .flowMappingEnd
  | ',' => t.fetchComma
  | '*' => t.fetchNode (scanAnchor true)
  | '&' => t.fetchNode (scanAnchor false)
  | '!' => t.fetchNode (scanTag inFlow)
  | '\'' => t.fetchNode (scanQuotedScalar true)
  | '"' => t.fetchNode (scanQuotedScalar false)
  | ch => if startsPlain inFlow ch next then t.fetchPlainScalar else throw .indicator

/-- Reads on until a token can be given out: the queue has a first token, and that can no
longer turn out to be a key. -/
def fill : Nat → Tokenizer → Except Malformed Tokenizer
  | 0, t => .ok t
  | fuel + 1, t => do
    if t.queue.isEmpty then fill fuel (← t.fetch)
    else
      let t ← t.dropStaleKeys
      if t.headMayBeKey then fill fuel (← t.fetch) else return t

/-- The tokens from this state on. The first argument bounds their number. -/
def tokens (fuel : Nat) : Nat → Tokenizer → List Token → TokenStream
  | 0, _, out => ⟨out.reverse, none⟩
  | n + 1, t, out =>
    match t.fill fuel with
    | .error e => ⟨out.reverse, some e⟩
    | .ok t =>
      match t.queue with
      | [] => ⟨out.reverse, none⟩
      | token :: queue =>
        if token.kind = .streamEnd then ⟨(token :: out).reverse, none⟩
        else tokens fuel n { t with queue := queue, given := t.given + 1 } (token :: out)

end Tokenizer

/-- The tokens of a text. -/
def TokenStream.ofText (text : String) : TokenStream :=
  let cursor := Cursor.ofText text
  let start : Token := ⟨.streamStart, {}, {}⟩
  match cursor.need 1 with
  | .error e => ⟨[], some e⟩
  | .ok _ =>
    -- Each character makes at most two tokens, opens at most one collection and closes it.
    let fuel := 4 * cursor.rest.length + 8
    Tokenizer.tokens fuel fuel { cursor := cursor, queue := [start] } []

end GitSteward.Yaml
