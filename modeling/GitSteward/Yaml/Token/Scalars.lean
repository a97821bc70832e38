-- Scalars: block scalars, quoted scalars and plain scalars. A scan keeps the text that it
-- has read so far back to front.
import GitSteward.Yaml.Token.Properties

namespace GitSteward.Yaml

/-! ## Folding of line breaks -/

/-- The white space between two pieces of a scalar: the blanks before the first line break,
that line break, and the line breaks after it. -/
structure Gap where
  blanks : List Char := []
  firstBreak : List Char := []
  moreBreaks : List Char := []
  /-- whether the gap holds a line break, which may be one that an escape takes away -/
  broken : Bool := false
deriving Repr, Inhabited

/-- The text of a gap between two words. One line break is folded into a space, and of more
the first is dropped. -/
def Gap.text (g : Gap) : List Char :=
  if g.broken then
    if g.firstBreak = ['\n'] then
      if g.moreBreaks.isEmpty then [' '] else g.moreBreaks
    else g.firstBreak ++ g.moreBreaks
  else g.blanks

/-- The gap with the next blank or line break of the text, and the place after that. A
blank after a line break is indentation. -/
def Gap.grow (g : Gap) (c : Cursor) : Gap × Cursor :=
  if isBlank c.peek then
    (if g.broken then g else { g with blanks := g.blanks ++ [c.peek] }, c.skip)
  else if g.broken then
    ({ g with moreBreaks := g.moreBreaks ++ c.breakText }, c.skipLine)
  else
    ({ g with blanks := [], firstBreak := c.breakText, broken := true }, c.skipLine)

/-- The whole gap that begins with `g`, and the place where it ends. `refused` tells at which
places a tab may not stand. The first argument bounds the number of characters. -/
def Gap.scan (refused : Gap → Cursor → Bool) : Nat → Gap → Cursor →
    Except Malformed (Gap × Cursor)
  | 0, g, c => .ok (g, c)
  | fuel + 1, g, c => do
    c.need 2
    if refused g c then throw .scalar
    if isBlank c.peek || isBreak c.peek then
      let (g, c) := g.grow c
      Gap.scan refused fuel g c
    else return (g, c)

/-! ## Block scalars -/

/-- What becomes of the line breaks at the end of a block scalar. -/
inductive Chomping where
  | strip
  | clip
  | keep
deriving Repr, DecidableEq, Inhabited

/-- The chomping that a character asks for. -/
def chomping? (c : Char) : Option Chomping :=
  if c = '+' then some .keep else if c = '-' then some .strip else none

/-- The indentation that a digit asks for. Zero is refused. -/
def scanIndentation (c : Cursor) : Except Malformed (Nat × Cursor) :=
  if c.peek = '0' then .error .scalar
  else if c.peek.isDigit then .ok (c.peek.toNat - '0'.toNat, c.skip)
  else .ok (0, c)

/-- The header of a block scalar: the chomping and the indentation, in either order. An
indentation that is not given is zero. -/
def scanBlockHeader (c : Cursor) : Except Malformed ((Chomping × Nat) × Cursor) := do
  c.need 1
  match chomping? c.peek with
  | some ch =>
    let c := c.skip
    c.need 1
    let (n, c) ← scanIndentation c
    return ((ch, n), c)
  | none =>
    let (n, c) ← scanIndentation c
    c.need 1
    match if n = 0 then none else chomping? c.peek with
    | some ch => return ((ch, n), c.skip)
    | none => return ((.clip, n), c)

/-- Indentation and empty lines before a line of a block scalar: the line breaks, the
indentation that the widest line reached, the place, and where the last line break ended.
`indent` is the indentation of the scalar, or zero while it is unknown. -/
def scanEmptyLines (indent : Nat) : Nat → List Char → Nat → Cursor → Mark →
    Except Malformed (List Char × Nat × Cursor × Mark)
  | 0, breaks, widest, c, stop => .ok (breaks, widest, c, stop)
  | fuel + 1, breaks, widest, c, stop => do
    let c ← indentation fuel c
    let widest := max widest c.column
    if (indent = 0 || c.column < indent) && c.peek = '\t' then throw .scalar
    if isBreak c.peek then
      c.need 2
      let next := c.skipLine
      scanEmptyLines indent fuel (breaks ++ c.breakText) widest next next.mark
    else return (breaks, widest, c, stop)
where
  /-- The place after the spaces that belong to the indentation. -/
  indentation : Nat → Cursor → Except Malformed Cursor
    | 0, c => .ok c
    | fuel + 1, c => do
      c.need 1
      if (indent = 0 || c.column < indent) && c.peek = ' ' then indentation fuel c.skip
      else return c

/-- The lines of a block scalar. `text` is what was read, back to front, `lead` the line
break after the last line and `breaks` the empty lines after that. -/
def scanBlockLines (folded : Bool) (indent fuel : Nat) :
    Nat → (text lead breaks : List Char) → (leadingBlank : Bool) → Cursor → Mark →
    Except Malformed (List Char × List Char × List Char × Cursor × Mark)
  | 0, text, lead, breaks, _, c, stop => .ok (text, lead, breaks, c, stop)
  | n + 1, text, lead, breaks, leadingBlank, c, stop => do
    c.need 1
    if c.column ≠ indent || c.peek = atEnd then return (text, lead, breaks, c, stop)
    let blank := isBlank c.peek
    let joint :=
      if folded && lead = ['\n'] && !leadingBlank && !blank then
        if breaks.isEmpty then [' '] else []
      else lead
    let (line, c) ← c.span (!isBreakOrEnd ·)
    c.need 2
    let text := line.reverse ++ (joint ++ breaks).reverse ++ text
    let lead := c.breakText
    let (breaks, _, c, stop) ← scanEmptyLines indent fuel [] 0 c.skipLine c.skipLine.mark
    scanBlockLines folded indent fuel n text lead breaks blank c stop

/-- A block scalar. `parent` is the column of the collection that it stands in. -/
def scanBlockScalar (folded : Bool) (parent : Int) (c : Cursor) :
    Except Malformed (Token × Cursor) := do
  let start := c.mark
  let fuel := c.rest.length + 1
  let ((chomp, given), c) ← scanBlockHeader c.skip
  let c ← c.skipWhile isBlank
  let c ← c.skipComment
  if !isBreakOrEnd c.peek then throw .scalar
  c.need 2
  let c := c.skipLine
  let indent := if given = 0 then 0 else (max parent 0).toNat + given
  let (breaks, widest, c, stop) ← scanEmptyLines indent fuel [] 0 c c.mark
  let indent := if indent = 0 then max (max widest (parent + 1).toNat) 1 else indent
  let (text, lead, breaks, c, stop) ←
    scanBlockLines folded indent fuel fuel [] [] breaks false c stop
  let tail := match chomp with
    | .strip => []
    | .clip => lead
    | .keep => lead ++ breaks
  let text := String.ofList (text.reverse ++ tail)
  return (⟨.scalar text (if folded then .folded else .literal), start, stop⟩, c)

/-! ## Quoted scalars -/

/-- What the character after a backslash stands for: a character, or a number of so many
hexadecimal digits. -/
def escape? : Char → Option (Char ⊕ Nat)
  | '0' => some (.inl '\x00')
  | 'a' => some (.inl '\x07')
  | 'b' => some (.inl '\x08')
  | 't' => some (.inl '\t')
  | '\t' => some (.inl '\t')
  | 'n' => some (.inl '\n')
  | 'v' => some (.inl '\x0b')
  | 'f' => some (.inl '\x0c')
  | 'r' => some (.inl '\r')
  | 'e' => some (.inl '\x1b')
  | ' ' => some (.inl ' ')
  | '"' => some (.inl '"')
  | '/' => some (.inl '/')
  | '\\' => some (.inl '\\')
  | 'N' => some (.inl '\u0085')
  | '_' => some (.inl '\u00a0')
  | 'L' => some (.inl '\u2028')
  | 'P' => some (.inl '\u2029')
  | 'x' => some (.inr 2)
  | 'u' => some (.inr 4)
  | 'U' => some (.inr 8)
  | _ => none

/-- The number that `n` hexadecimal digits spell. -/
def scanHex : Nat → Nat → Cursor → Except Malformed (Nat × Cursor)
  | 0, value, c => .ok (value, c)
  | n + 1, value, c =>
    match hexDigit? c.peek with
    | some d => scanHex n (value * 16 + d) c.skip
    | none => .error .scalar

/-- The character that an escape stands for, from its backslash on. -/
def scanEscape (c : Cursor) : Except Malformed (Char × Cursor) := do
  match escape? (c.peekAt 1) with
  | none => throw .scalar
  | some (.inl ch) => return (ch, c.skipN 2)
  | some (.inr digits) =>
    let c := c.skipN 2
    c.need digits
    let (value, c) ← scanHex digits 0 c
    if h : value.isValidChar then return (Char.ofNatAux value h, c) else throw .scalar

/-- A word of a quoted scalar, back to front onto `text`, and whether an escaped line break
ended it. -/
def scanQuotedWord (single : Bool) : Nat → List Char → Cursor →
    Except Malformed (List Char × Bool × Cursor)
  | 0, text, c => .ok (text, false, c)
  | fuel + 1, text, c => do
    c.need 2
    if isBlankOrEnd c.peek then return (text, false, c)
    if single then
      if c.peek = '\'' then
        if c.peekAt 1 = '\'' then scanQuotedWord single fuel ('\'' :: text) (c.skipN 2)
        else return (text, false, c)
      else scanQuotedWord single fuel (c.peek :: text) c.skip
    else if c.peek = '"' then return (text, false, c)
    else if c.peek = '\\' then
      if isBreak (c.peekAt 1) then
        c.need 3
        return (text, true, c.skip.skipLine)
      else
        let (ch, c) ← scanEscape c
        scanQuotedWord single fuel (ch :: text) c
    else scanQuotedWord single fuel (c.peek :: text) c.skip

/-- The words of a quoted scalar and its closing quote. -/
def scanQuotedText (single : Bool) (fuel : Nat) : Nat → List Char → Cursor →
    Except Malformed (List Char × Cursor)
  | 0, _, _ => .error .scalar
  | n + 1, text, c => do
    c.need 4
    if c.atDocumentMarker || c.peek = atEnd then throw .scalar
    let (text, escaped, c) ← scanQuotedWord single fuel text c
    c.need 1
    if c.peek = (if single then '\'' else '"') then return (text, c.skip)
    let (gap, c) ← Gap.scan (fun _ _ => false) fuel { broken := escaped } c
    scanQuotedText single fuel n (gap.text.reverse ++ text) c

/-- A quoted scalar. -/
def scanQuotedScalar (single : Bool) (c : Cursor) : Except Malformed (Token × Cursor) := do
  let fuel := c.rest.length + 1
  let (text, stop) ← scanQuotedText single fuel fuel [] c.skip
  let style := if single then ScalarStyle.singleQuoted else .doubleQuoted
  return (⟨.scalar (String.ofList text.reverse) style, c.mark, stop.mark⟩, stop)

/-! ## Plain scalars -/

/-- Whether a character is a bracket or a comma, which ends a plain scalar in a flow
collection. -/
def isFlowIndicator (c : Char) : Bool := ",[]\x7b\x7d".toList.contains c

/-- A word of a plain scalar, back to front onto `text`. -/
def scanPlainWord (inFlow : Bool) : Nat → List Char → Cursor →
    Except Malformed (List Char × Cursor)
  | 0, text, c => .ok (text, c)
  | fuel + 1, text, c => do
    c.need 2
    if isBlankOrEnd c.peek then return (text, c)
    let next := c.peekAt 1
    if inFlow && c.peek = ':' && (isFlowIndicator next || next = '?') then throw .scalar
    if (c.peek = ':' && isBlankOrEnd next) || (inFlow && isFlowIndicator c.peek) then
      return (text, c)
    scanPlainWord inFlow fuel (c.peek :: text) c.skip

/-- The words of a plain scalar. `gap` is the gap before the next word and `stop` the end of
the last word. The scalar ends where a comment or a document marker starts, and outside flow
collections at a line that is indented less than `indent`. -/
def scanPlainWords (inFlow : Bool) (indent : Int) (fuel : Nat) :
    Nat → List Char → Gap → Cursor → Mark → Except Malformed (List Char × Gap × Cursor × Mark)
  | 0, text, gap, c, stop => .ok (text, gap, c, stop)
  | n + 1, text, gap, c, stop => do
    c.need 4
    if c.atDocumentMarker || c.peek = '#' then return (text, gap, c, stop)
    let (word, next) ← scanPlainWord inFlow fuel [] c
    let (text, gap, stop) :=
      if word.isEmpty then (text, gap, stop)
      else (word ++ gap.text.reverse ++ text, ({} : Gap), next.mark)
    if !(isBlank next.peek || isBreak next.peek) then return (text, gap, next, stop)
    let tabBeforeText (g : Gap) (c : Cursor) : Bool :=
      g.broken && (c.column : Int) < indent && c.peek = '\t'
    let (gap, next) ← Gap.scan tabBeforeText fuel gap next
    if !inFlow && (next.column : Int) < indent then return (text, gap, next, stop)
    scanPlainWords inFlow indent fuel n text gap next stop

/-- A plain scalar, and whether a line break follows it. `parent` is the column of the
collection that it stands in. -/
def scanPlainScalar (inFlow : Bool) (parent : Int) (c : Cursor) :
    Except Malformed (Token × Bool × Cursor) := do
  let fuel := c.rest.length + 1
  let (text, gap, next, stop) ← scanPlainWords inFlow (parent + 1) fuel fuel [] {} c c.mark
  let text := String.ofList text.reverse
  return (⟨.scalar text .plain, c.mark, stop⟩, gap.broken, next)

end GitSteward.Yaml
